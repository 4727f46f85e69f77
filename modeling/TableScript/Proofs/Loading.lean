import TableScript.Load
import TableScript.Proofs.Traversal

/-!
# What files hold

The results of loading, without the records that are made on the way.

Results:
* `Files.read_eq_ok_iff`: a file is read exactly if its bytes are those of a text, and then as this
  text.
* `Description.result_load` for one description file, `Description.result_loadAll` for several: they
  are read and parsed one after the other, up to the first that fails.
* `Configuration.result_load`: a configuration is read, parsed and checked if it is there, and else
  left out.
-/

namespace TableScript

theorem fromUTF8?_eq_some_iff {bytes : ByteArray} {text : String} :
    String.fromUTF8? bytes = some text ↔ bytes = text.toUTF8 := by
  constructor
  · intro h
    unfold String.fromUTF8? at h
    split at h
    · obtain rfl := Option.some.inj h
      rfl
    · cases h
  · rintro rfl
    exact dif_pos text.isValidUTF8

namespace Files

variable {files : Files} {path text : String}

/-- A file that was written as text is read as that text. -/
theorem read_of_text (h : (files path).bytes = .ok text.toUTF8) : files.read path = .ok text := by
  have hbytes : String.fromUTF8? text.toUTF8 = some text := fromUTF8?_eq_some_iff.mpr rfl
  unfold read
  simp only [h, hbytes]

/-- **A file is read exactly if its bytes are those of a text.** -/
theorem read_eq_ok_iff : files.read path = .ok text ↔ (files path).bytes = .ok text.toUTF8 := by
  refine ⟨fun h => ?_, read_of_text⟩
  unfold read at h
  split at h
  · cases h
  · next bytes hbytes =>
    split at h
    · next decoded hdecoded =>
      obtain rfl := Except.ok.inj h
      rw [hbytes, fromUTF8?_eq_some_iff.mp hdecoded]
    · cases h

end Files

namespace Description

variable (files : Files)

/-- A file is read, and its text is parsed. -/
theorem result_load (path : String) :
    (load files path).result =
      (files.read path).mapError (.unreadableFile path) >>= parse path := by
  unfold load
  simp only [Logged.result_bind, Logged.result_of, Logged.result_note, Logged.result_pure, ok_bind]
  cases (files.read path).mapError (Error.unreadableFile path) with
  | error e => rfl
  | ok content =>
    rw [ok_bind, ok_bind]
    cases parse path content <;> rfl

/-- Files are loaded one after the other, up to the first that fails. -/
theorem result_loadAll (paths : List String) :
    (loadAll files paths).result =
      (paths.mapM fun path => (load files path).result).map List.flatten := by
  unfold loadAll
  rw [Logged.result_map, Logged.result_mapM]
  rfl

end Description

/-- A configuration is read and checked if it is there, and otherwise it is left out. -/
theorem Configuration.result_load (files : Files) (path : String) :
    (load files path).result =
      if files.has path then
        (files.read path).mapError (.unreadableFile path) >>= fun content =>
          (ofText path content).map some
      else .ok none := by
  unfold load
  split <;> rfl

end TableScript
