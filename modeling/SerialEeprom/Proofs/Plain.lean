/-
# A plain EEPROM

What a controller may think it talks to: contents, a cursor within them, and two transactions that
each take one step.  There is no bus, no buffer between the two sides and nothing to stage.  It is
what the device is for, and all that is later proved of controllers is first proved here, where it
is a matter of lists and numbers.

A write gives an address in its first two bytes, and of the whole write no more is accepted than
the device has bytes.  That is the one trace of the buffer that a controller can notice: of a write
that is longer than the device the rest is lost, address included in the count.  A read gives what
there is from the cursor on, and may give nothing.

Whoever is told of the transactions hears of each completed access once.  An address that comes
alone is no access, and neither is a write to a place that does not exist; a read of nothing is one.

Sizes are natural numbers here, and so are the cursor and the lengths that are told, as nothing has
to fit into a word.  The invariants are part of the structure (`Plain.length_contents`,
`Plain.cursor_le`), so a plain EEPROM is never out of its bounds; that a device never is either has
to be proved, and then each device in use is a plain one in disguise.
-/
import SerialEeprom.Overlay
import SerialEeprom.Device

namespace SerialEeprom

/-- Contents of a fixed size, and a place in them or right behind them.  There is nothing else that
a transaction could depend on. -/
@[ext] structure Plain (size : Nat) where
  contents : List UInt8
  cursor : Nat
  length_contents : contents.length = size
  cursor_le : cursor ≤ size

namespace Plain

variable {size : Nat} {α β : Type}

/-- A completed access: `length` bytes from `address` on.  The numbers have no width. -/
structure Completion where
  access : Access
  address : Nat
  length : Nat
  deriving DecidableEq, Repr

/-- What a plain EEPROM answers, what it is afterwards, and what is told of it.  It always answers,
so there is no failure. -/
@[ext] structure Answer (size : Nat) (α : Type) where
  value : α
  after : Plain size
  told : List Completion

namespace Answer

/-- The same answer with another value.  What is left and what is told do not depend on what is made
of the value. -/
def map (f : α → β) (a : Answer size α) : Answer size β := ⟨f a.value, a.after, a.told⟩

/-- An answer, and the one to what comes after it.  The first value is dropped, and what was told of
comes in order. -/
def andThen (first : Answer size α) (second : Answer size β) : Answer size β :=
  ⟨second.value, second.after, first.told ++ second.told⟩

end Answer

/-! ## 1. The two transactions

Independent of how a device does them: one step each, from one state to the next. -/

/-- The address in the first two bytes, the high one first.  Fewer bytes are no address; what is
said of them does not matter. -/
def header : List UInt8 → Nat
  | high :: low :: _ => high.toNat * 256 + low.toNat
  | _ => 0

/-- Accept a write, and store what is behind its address as far as it fits, both into what was
accepted and into the contents. -/
def send (bytes : List UInt8) (p : Plain size) : Answer size Nat :=
  let accepted := min bytes.length size
  let address := header bytes
  if _ : accepted < 2 ∨ size ≤ address then ⟨accepted, p, []⟩
  else
    let stored := min (accepted - 2) (size - address)
    ⟨accepted,
      { contents := overlay p.contents address ((bytes.drop 2).take stored)
        cursor := address + stored
        length_contents := (length_overlay ..).trans p.length_contents
        cursor_le := by omega },
      if 2 < accepted then [⟨.write, address, stored⟩] else []⟩

/-- Read up to `length` bytes from the cursor on, and move it behind them.  A read is told of in any
case, also if it finds nothing. -/
def receive (length : Nat) (p : Plain size) : Answer size (List UInt8) :=
  let bytes := (p.contents.drop p.cursor).take length
  ⟨bytes,
    { p with
      cursor := p.cursor + bytes.length
      cursor_le := by
        have hcontents := p.length_contents
        have hcursor := p.cursor_le
        simp only [bytes, List.length_take, List.length_drop]
        omega },
    [⟨.read, p.cursor, bytes.length⟩]⟩

theorem header_take {n : Nat} (hn : 2 ≤ n) (bytes : List UInt8) :
    header (bytes.take n) = header bytes := by
  obtain ⟨n, rfl⟩ := Nat.exists_eq_add_of_le' hn
  rcases bytes with _ | ⟨high, _ | ⟨low, rest⟩⟩
  · rfl
  · rfl
  · rfl

theorem send_value (p : Plain size) (bytes : List UInt8) :
    (p.send bytes).value = min bytes.length size := by
  simp only [send]
  split
  · rfl
  · rfl

/-- A write without room for its address, or to an address behind the end, changes nothing.  It is
accepted all the same, as far as there is room. -/
theorem send_of_ignored {p : Plain size} {bytes : List UInt8}
    (h : min bytes.length size < 2 ∨ size ≤ header bytes) :
    p.send bytes = ⟨min bytes.length size, p, []⟩ :=
  dif_pos h

/-- What else a write can do, the bytes stored being those behind the address that fit both
limits. -/
theorem send_of_stored (p : Plain size) {bytes : List UInt8} (ha : 2 ≤ min bytes.length size)
    (hh : header bytes < size) :
    let stored := min (min bytes.length size - 2) (size - header bytes)
    (p.send bytes).after.contents
        = overlay p.contents (header bytes) ((bytes.drop 2).take stored) ∧
      (p.send bytes).after.cursor = header bytes + stored ∧
      (p.send bytes).told
        = if 2 < min bytes.length size then [⟨.write, header bytes, stored⟩] else [] := by
  have hn : ¬ (min bytes.length size < 2 ∨ size ≤ header bytes) := by omega
  simp only [send, dif_neg hn]
  exact ⟨trivial, trivial, trivial⟩

/-- What finds no room plays no part.  Bytes that the receive buffer cannot take may be left out
before they are sent. -/
theorem send_take (p : Plain size) (bytes : List UInt8) :
    p.send (bytes.take size) = p.send bytes := by
  have hlength : min (bytes.take size).length size = min bytes.length size := by
    rw [List.length_take]
    omega
  -- Both are ignored for the same reason, or neither is.
  by_cases hl : 2 ≤ min bytes.length size
  · have hheader : header (bytes.take size) = header bytes := header_take (by omega) bytes
    by_cases hh : header bytes < size
    · obtain ⟨hcontents, hcursor, htold⟩ := p.send_of_stored hl hh
      obtain ⟨hcontents', hcursor', htold'⟩ :=
        p.send_of_stored (hlength.symm ▸ hl) (hheader.symm ▸ hh)
      rw [hlength, hheader] at hcontents' hcursor' htold'
      have hpayload : ((bytes.take size).drop 2).take
            (min (min bytes.length size - 2) (size - header bytes))
          = (bytes.drop 2).take (min (min bytes.length size - 2) (size - header bytes)) := by
        rw [List.drop_take, List.take_take]
        congr 1
        omega
      rw [hpayload] at hcontents'
      refine Answer.ext ?_ (Plain.ext ?_ ?_) ?_
      · rw [send_value, send_value, hlength]
      · rw [hcontents', hcontents]
      · rw [hcursor', hcursor]
      · rw [htold', htold]
    · rw [send_of_ignored (.inr (Nat.not_lt.1 hh)),
        send_of_ignored (.inr (hheader.symm ▸ Nat.not_lt.1 hh)), hlength]
  · rw [send_of_ignored (.inl (Nat.not_le.1 hl)),
      send_of_ignored (.inl (hlength.symm ▸ Nat.not_le.1 hl)), hlength]

end Plain

/-! ## 2. Any number of them -/

/-- One transaction on the bus. -/
inductive Transaction where
  | send (bytes : List UInt8)
  | receive (length : Nat)
  deriving DecidableEq, Repr

/-- What a controller has of a transaction.  It has no more than that: what became of the bytes is
not told. -/
inductive Reply where
  | accepted (count : Nat)
  | received (bytes : List UInt8)
  deriving DecidableEq, Repr

namespace Plain

variable {size : Nat}

/-- The answer to a transaction of either kind. -/
def answer (p : Plain size) : Transaction → Answer size Reply
  | .send bytes => (p.send bytes).map .accepted
  | .receive length => (p.receive length).map .received

/-- The answers to one transaction after the other.  Each is answered by the plain EEPROM that the
one before it has left. -/
def answers (p : Plain size) : List Transaction → Answer size (List Reply)
  | [] => ⟨[], p, []⟩
  | t :: ts =>
    let first := p.answer t
    first.andThen ((first.after.answers ts).map (first.value :: ·))

end Plain

end SerialEeprom
