import ApiTypes.Command.Plan
import ApiTypes.Proofs.Json.Pointer
import ApiTypes.Proofs.Keyed

/-!
Writing files.

Where a path leads depends on the folders and on which of them is the current one, and writing
leaves both alone: after some writes every path leads where it led before. A write changes the text
at one place, so of several writes to different places each can be read back, and what stands
elsewhere stays.
-/

namespace ApiTypes

/-! ### Places -/

namespace Files

variable {files other after : Files} {path text : String}

/-- The two differ in their texts at most. -/
structure SameFolders (files other : Files) : Prop where
  folders : other.folders = files.folders
  current : other.current = files.current

namespace SameFolders

lemma refl (files : Files) : files.SameFolders files := ⟨rfl, rfl⟩

lemma trans (h : files.SameFolders other) (h' : other.SameFolders after) :
    files.SameFolders after :=
  ⟨h'.folders.trans h.folders, h'.current.trans h.current⟩

lemma isFolder_eq (h : files.SameFolders other) : other.isFolder = files.isFolder := by
  funext place
  rw [isFolder, isFolder, h.folders]

lemma step?_eq (h : files.SameFolders other) : other.step? = files.step? := by
  funext place part
  rw [step?, step?, h.isFolder_eq]

lemma place?_eq (h : files.SameFolders other) (path : String) :
    other.place? path = files.place? path := by
  rw [place?, place?, start, start, h.current, h.step?_eq]

end SameFolders

/-- Some text can be written under the path. -/
def CanWrite (files : Files) (path : String) : Prop := (files.write? path "").isSome

instance (files : Files) (path : String) : Decidable (files.CanWrite path) :=
  inferInstanceAs (Decidable (_ = true))

lemma exists_of_write? (h : files.write? path text = some after) :
    ∃ place, files.place? path = some place ∧ files.SameFolders after ∧
      after.texts = Keyed.put Prod.fst (place, text) files.texts := by
  unfold write? at h
  split at h
  · cases h
  · obtain ⟨place, hplace, h⟩ := Option.bind_eq_some_iff.mp h
    split at h
    · cases h
    · cases h
      exact ⟨place, hplace, ⟨rfl, rfl⟩, rfl⟩

/-- Whether a text can be written does not depend on the texts. -/
lemma CanWrite.exists_write? (hw : files.CanWrite path) (h : files.SameFolders other)
    (text : String) : ∃ after, other.write? path text = some after := by
  obtain ⟨after, hafter⟩ := Option.isSome_iff_exists.mp hw
  unfold write? at hafter ⊢
  rw [h.place?_eq]
  split at hafter
  · cases hafter
  · rename_i hname
    obtain ⟨place, hplace, hafter⟩ := Option.bind_eq_some_iff.mp hafter
    split at hafter
    · cases hafter
    · rename_i hfolder
      rw [if_neg hname, hplace, Option.bind_some, h.isFolder_eq, if_neg hfolder]
      exact ⟨_, rfl⟩

lemma CanWrite.congr (hw : files.CanWrite path) (h : files.SameFolders other) :
    other.CanWrite path :=
  Option.isSome_iff_exists.mpr (hw.exists_write? h "")

lemma CanWrite.exists_place? (hw : files.CanWrite path) :
    ∃ place, files.place? path = some place := by
  obtain ⟨after, hafter⟩ := Option.isSome_iff_exists.mp hw
  obtain ⟨place, hplace, -⟩ := exists_of_write? hafter
  exact ⟨place, hplace⟩

/-- A write is read back where it was made, and nothing else is changed. -/
lemma read?_of_write? (h : files.write? path text = some after) (path' : String) :
    after.read? path' =
      if files.place? path' = files.place? path then some text else files.read? path' := by
  obtain ⟨place, hplace, hfolders, htexts⟩ := exists_of_write? h
  rw [read?, hfolders.place?_eq, hplace, htexts, read?]
  cases files.place? path' with
  | none => rfl
  | some place' =>
    rw [Option.bind_some, Option.bind_some, Keyed.lookup_put]
    simp only [Option.some.injEq]

end Files

/-! ### Several writes -/

namespace Command

open Files (CanWrite)

/-- Writes that can be made are all made. They change nothing elsewhere, and if no two go to the
same place, each can be read back. -/
lemma perform_writes {writes : List (String × String)} {files : Files} (output : String)
    (h : ∀ w ∈ writes, files.CanWrite w.1) :
    ∃ after, perform files output (writes.map fun (path, text) => .write path text) =
        (after, output, true) ∧
      files.SameFolders after ∧
      (∀ path, (∀ w ∈ writes, files.place? w.1 ≠ files.place? path) →
        after.read? path = files.read? path) ∧
      (writes.Pairwise (fun v w => files.place? v.1 ≠ files.place? w.1) →
        ∀ w ∈ writes, after.read? w.1 = some w.2) := by
  induction writes generalizing files with
  | nil => exact ⟨files, rfl, .refl files, fun _ _ => rfl, fun _ => List.forall_mem_nil _⟩
  | cons w rest ih =>
    rw [List.forall_mem_cons] at h
    obtain ⟨next, hnext⟩ := h.1.exists_write? (.refl files) w.2
    have hfolders : files.SameFolders next := by
      obtain ⟨place, -, hfolders, -⟩ := Files.exists_of_write? hnext
      exact hfolders
    have hplace := hfolders.place?_eq
    obtain ⟨after, hrun, hkeep, hframe, hread⟩ := ih fun w hw => (h.2 w hw).congr hfolders
    simp only [hplace] at hframe hread
    refine ⟨after, ?_, hfolders.trans hkeep, ?_, ?_⟩
    · rw [List.map_cons, perform, hnext]
      exact hrun
    · intro path hpath
      rw [List.forall_mem_cons] at hpath
      rw [hframe path hpath.2, Files.read?_of_write? hnext, if_neg (Ne.symm hpath.1)]
    · rintro hapart v hv
      rw [List.pairwise_cons] at hapart
      rcases List.mem_cons.mp hv with rfl | hv
      · -- none of the later writes goes to this place
        rw [hframe v.1 fun u hu => Ne.symm (hapart.1 u hu), Files.read?_of_write? hnext, if_pos rfl]
      · exact hread hapart.2 v hv

end Command

/-! ### Files in a folder -/

/-- The name of a file in a folder, and not of the folder itself or one around it. -/
structure Path.IsName (name : String) : Prop where
  slash_notMem : '/' ∉ name.toList
  not_idle : Path.isIdle name = false
  ne_dots : name ≠ ".."

lemma Path.parts_join (base : String) :
    ∃ front, ∀ name, IsName name → parts (join base name) = front ++ [name] := by
  have hsplit : ∀ front : List Char, ∀ name, IsName name →
      (Text.split '/' (front ++ '/' :: name.toList)).map String.ofList =
        (Text.split '/' front).map String.ofList ++ [name] := by
    intro front name hname
    rw [Text.split_append_cons, Text.split_of_not_mem hname.slash_notMem, List.map_append]
    simp
  have habsolute : ∀ name, IsName name → isAbsolute name = false := by
    intro name hname
    rw [isAbsolute, decide_eq_false_iff_not]
    exact fun h => hname.slash_notMem (List.mem_of_mem_head? h)
  by_cases hempty : base.isEmpty
  · refine ⟨[], fun name hname => ?_⟩
    rw [join, habsolute name hname, hempty, parts, Bool.false_or, if_pos rfl,
      Text.split_of_not_mem hname.slash_notMem]
    simp
  by_cases hlast : base.toList.getLast? = some '/'
  · obtain ⟨front, hfront⟩ := List.getLast?_eq_some_iff.mp hlast
    refine ⟨(Text.split '/' front).map String.ofList, fun name hname => ?_⟩
    rw [join, habsolute name hname, Bool.false_or, if_neg hempty, if_pos hlast, parts,
      String.toList_append, hfront, List.append_assoc]
    exact hsplit front name hname
  · refine ⟨parts base, fun name hname => ?_⟩
    rw [join, habsolute name hname, Bool.false_or, if_neg hempty, if_neg hlast, parts,
      String.toList_append, String.toList_append, List.append_assoc]
    exact hsplit base.toList name hname

/-- A name joined to a path leads to a place of that name. -/
lemma Files.getLast?_of_place? {files : Files} {base name : String} {place : List String}
    (hname : Path.IsName name) (h : files.place? (Path.join base name) = some place) :
    place.getLast? = some name := by
  obtain ⟨front, hfront⟩ := Path.parts_join base
  unfold place? at h
  split at h
  · cases h
  · rw [hfront name hname, List.foldlM_append] at h
    obtain ⟨folder, -, h⟩ := Option.bind_eq_some_iff.mp h
    simp only [List.foldlM_cons, List.foldlM_nil, bind_pure] at h
    rw [step?, hname.not_idle] at h
    split at h
    · cases h
    · rw [if_neg Bool.false_ne_true, if_neg hname.ne_dots] at h
      cases h
      exact List.getLast?_concat

end ApiTypes
