/-
# From an image file to a dump

The command `dump` opens a device as its options describe it, with the image it is given, and prints
what the device holds.  The stages are proved elsewhere: what a device holds that was just opened,
and what its dump says.  Here they are put together, with the reading of the file in front, so that
nothing is left between the file and the print.

A file is read from a working folder, which stands for the system (`Folder`).  All that matters of
it is what it gives for the one name on the command line; that it gives what was put there under a
plain name is `Folder.read_put`, which needs no more of the name than that it is one name and not a
way.

An invocation comes to its task or it does not.  If it does not, for options that describe no device
or for a file that cannot be read, it prints nothing, says why in its last message and ends with
exit code one (`Invocation.run_of_error`).  So a print is never that of another device than the one
described.

Main statements: what `dump` prints of an image is its dump, from which the image is read back, cut
to the size of the device and filled up with zeros (`dump_of_image`); and an image that cannot be
read is never taken for an empty one (`run_of_unreadable`).
-/
import SerialEeprom.Proofs.Dump
import SerialEeprom.Proofs.Opening

namespace SerialEeprom

open SerialEeprom.Text

/-! ## 1. Files under plain names -/

namespace Folder

variable {name : String}

/-- A plain name of a file: a part that a path can have, not a way to somewhere else.  It is what
one would call a file in the folder where one is. -/
structure IsName (name : String) : Prop where
  ne_empty : name ≠ ""
  ne_dot : name ≠ "."
  ne_dots : name ≠ ".."
  no_stroke : '/' ∉ name.toList
  no_nul : '\x00' ∉ name.toList
  short : name.utf8ByteSize ≤ maxNameBytes

theorem IsName.parts_eq (h : IsName name) : parts name = [name] := by
  rw [parts, List.splitOn_eq_singleton h.no_stroke, List.map_singleton, String.ofList_toList]

theorem IsName.start_eq (h : IsName name) : start name = [] := by
  refine if_neg fun hhead => h.no_stroke ?_
  exact List.mem_of_head? hhead

theorem IsName.step_eq (h : IsName name) : step [] name = [name] := by
  rw [step, if_neg (not_or.2 ⟨h.ne_empty, h.ne_dot⟩), if_neg fun hdots => h.ne_dots hdots.1]
  rfl

theorem IsName.place_eq (h : IsName name) : place name = [name] := by
  rw [place, h.parts_eq, h.start_eq, List.foldl_cons, List.foldl_nil, h.step_eq]

/-- **What is put in a folder under a plain name is read under that name.**  What else is in the
folder does not matter, nor what was there under this name. -/
theorem read_put (h : IsName name) (folder : Folder) (bytes : List UInt8) :
    (folder.put name bytes).read name = .ok bytes := by
  have hlong : ¬ maxPathBytes ≤ name.utf8ByteSize := by
    have hshort := h.short
    simp only [maxNameBytes, maxPathBytes] at hshort ⊢
    omega
  have hfound : (folder.put name bytes).follow (start name) (parts name) = .ok bytes := by
    rw [h.start_eq, h.parts_eq, follow, if_neg (Nat.not_lt.2 h.short), h.step_eq, put, h.place_eq]
    simp
  simp only [read, List.contains_eq_mem, h.no_nul, h.ne_empty, if_neg hlong, hfound]
  rfl

end Folder

namespace Command

variable {o : DeviceOptions} {config : DeviceConfig} {folder : Folder} {name : String}

/-! ## 2. Coming to the task, or not -/

/-- An invocation that comes to its task gives what the task gives, behind the messages on the way
there. -/
theorem Invocation.run_of_opened {i : Invocation} {image : Option (Except ImageError (List UInt8))}
    {d : Device} {entries : List LogEntry} {trace : List (Emission Output)}
    {input : List InputLine}
    (hopened : (i.device.openDevice image : Action Unit Output Failure Device).run ()
      = ⟨.ok d, (), entries.map .log⟩)
    (htask : (i.task.run d input : Action Unit Output Failure Unit).run () = ⟨.ok (), (), trace⟩) :
    i.run image input = ⟨0, entries.map .log ++ trace⟩ := by
  simp only [Invocation.run, Action.run_bind_of_ok hopened, htask]

/-- **An invocation that does not come to its task says why and does nothing else.**  The task is
any, and its input is not looked at. -/
theorem Invocation.run_of_error {i : Invocation} {image : Option (Except ImageError (List UInt8))}
    {failure : Failure} {entries : List LogEntry}
    (hopened : (i.device.openDevice image : Action Unit Output Failure Device).run ()
      = ⟨.error failure, (), entries.map .log⟩) (input : List InputLine) :
    i.run image input
      = ⟨1, (entries ++ [LogEntry.runFailed failure.message]).map .log⟩ := by
  simp only [Invocation.run, Action.run_bind_of_error hopened, List.map_append, List.map_singleton]

/-- Messages are not printed.  They go to the log, which is not seen in the print. -/
theorem printed_messages (code : UInt32) (entries : List LogEntry)
    (trace : List (Emission Output)) :
    Completion.printed ⟨code, entries.map .log ++ trace⟩ = Completion.printed ⟨code, trace⟩ := by
  have hnone : (entries.map Emission.log).filterMap
      (fun e : Emission Output => e.report?.bind Output.line?) = [] :=
    List.filterMap_eq_nil_iff.2 fun e he => by
      obtain ⟨entry, -, rfl⟩ := List.mem_map.1 he
      rfl
  rw [Completion.printed, List.filterMap_append, hnone]
  rfl

/-! ## 3. Dumps -/

theorem printed_lines (code : UInt32) (ls : List (List Char)) :
    Completion.printed ⟨code, ls.map fun line => .report (.line (String.ofList line))⟩
      = ls.map String.ofList := by
  rw [Completion.printed, List.filterMap_map]
  exact congrFun List.filterMap_eq_map ls

/-- **What is printed of an image is read back as what of it fits, and zeros behind.**  For options
that describe a device, and an image that can be read, the command succeeds; its lines, each with
a line feed behind it, are the dump of the contents. -/
theorem dump_of_image {image : List UInt8} (h : o.Describes config)
    (hread : folder.read name = .ok image) (input : List InputLine) :
    let done := (Invocation.mk o (some name) .dump).runIn folder input
    let contents := image.take config.size.toNat
      ++ List.replicate (config.size.toNat - image.length) 0
    let printed := done.printed.flatMap fun line => line.toList ++ ['\n']
    done.exitCode = 0 ∧ printed = Hexdump.text contents ∧
      Hexdump.readBack printed = .ok contents := by
  intro done contents printed
  obtain ⟨entries, hopened⟩ := DeviceOptions.openDevice_of_described (ω := Output) h (some image) ()
  have hsnapshot : (Device.imaged config image).snapshot = contents :=
    (Device.holdsImage_iff.2 rfl : (Device.imaged config image).HoldsImage image).snapshot_eq
  have htask : (Task.dump.run (Device.imaged config image) input :
      Action Unit Output Failure Unit).run () = _ :=
    Hexdump.run_printAll (Hexdump.lines (Device.imaged config image).snapshot) ()
  have hrun : done = (Invocation.mk o (some name) .dump).run (some (.ok image)) input := by
    simp only [done, Invocation.runIn, Option.map_some, hread]
  have hdone := hrun.trans (Invocation.run_of_opened hopened htask)
  have hprinted : printed = Hexdump.text contents := by
    simp only [printed, hdone, printed_messages, printed_lines, hsnapshot, List.flatMap_map,
      String.toList_ofList]
    rfl
  exact ⟨by rw [hdone], hprinted, hprinted ▸ Hexdump.readBack_text contents⟩

/-- The image may as well be put there first: what the file holds comes back from the print. -/
theorem dump_of_put {image : List UInt8} (h : o.Describes config) (hname : Folder.IsName name)
    (input : List InputLine) :
    let done := (Invocation.mk o (some name) .dump).runIn (folder.put name image) input
    let printed := done.printed.flatMap fun line => line.toList ++ ['\n']
    Hexdump.readBack printed = .ok (image.take config.size.toNat
      ++ List.replicate (config.size.toNat - image.length) 0) :=
  (dump_of_image h (Folder.read_put hname folder image) input).2.2

/-- **An image that cannot be read is not taken for another**, whatever the task: nothing is printed
and the last message says what is wrong with the file. -/
theorem run_of_unreadable {e : ImageError} (h : o.Describes config)
    (hread : folder.read name = .error e) (task : Task) (input : List InputLine) :
    let done := (Invocation.mk o (some name) task).runIn folder input
    done.exitCode = 1 ∧ done.printed = [] ∧
      done.trace.getLast? = some (.log (.runFailed e.message)) := by
  intro done
  have hopened : (o.openDevice (some (.error e)) : Action Unit Output Failure Device).run ()
      = ⟨.error (.image e), (), [LogEntry.created config.address config.size].map .log⟩ :=
    DeviceOptions.openDevice_of_unreadable h e ()
  have hrun : done = (Invocation.mk o (some name) task).run (some (.error e)) input := by
    simp only [done, Invocation.runIn, Option.map_some, hread]
  rw [hrun.trans (Invocation.run_of_error hopened input)]
  exact ⟨rfl, rfl, rfl⟩

end Command

end SerialEeprom
