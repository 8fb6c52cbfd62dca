import ApiTypes.Model.Reduce
import ApiTypes.Proofs.Keyed

/-!
Merged parameters.

The parameters of a path come first and those of an operation after them. Where the last one of a
name and location takes the place of the first, each name and location is there once, stands where
it was first declared and means what was declared last.
-/

namespace ApiTypes.Model

lemma mergeParameters_of_nodup {ps : List Parameter} (h : (ps.map Parameter.key).Nodup) :
    mergeParameters .override ps = ps :=
  Keyed.gather_of_nodup h

lemma nodup_map_mergeParameters (ps : List Parameter) :
    ((mergeParameters .override ps).map Parameter.key).Nodup :=
  Keyed.nodup_map_gather ps

/-- What an operation declares takes the place of what its path declares. -/
lemma mem_own_of_mem_mergeParameters {shared own : List Parameter} {p : Parameter}
    (h : p ∈ mergeParameters .override (shared ++ own)) (hown : p.key ∈ own.map Parameter.key) :
    p ∈ own := by
  obtain ⟨before, after, hps, hafter⟩ := Keyed.mem_gather_iff_last.mp h
  obtain ⟨q, hq, hkey⟩ := List.mem_map.mp hown
  rcases List.append_eq_append_iff.mp hps with ⟨middle, -, rfl⟩ | ⟨middle, rfl, hmiddle⟩
  · simp
  · cases middle with
    | nil =>
      rw [List.nil_append] at hmiddle
      rw [← hmiddle]
      exact List.mem_cons_self
    | cons first rest =>
      rw [List.cons_append, List.cons.injEq] at hmiddle
      have hq' : q ∈ after := hmiddle.2 ▸ List.mem_append_right rest hq
      exact absurd hkey (hafter q hq')

/-- **The last declaration counts, at the place of the first.** Of the merged parameters each name
and location is there once, in the order of the first declarations, and a parameter is there just
when no later one has its name and location; so those of an operation count before those of its
path. Merging again changes nothing. Just when no name and location is declared twice, merging
keeps all parameters as they are. -/
theorem mergeParameters_keeps_last (shared own : List Parameter) :
    Keyed.FirstSeen ((shared ++ own).map Parameter.key)
      ((mergeParameters .override (shared ++ own)).map Parameter.key) ∧
    (∀ p, p ∈ mergeParameters .override (shared ++ own) ↔
      ∃ before after, shared ++ own = before ++ p :: after ∧ ∀ q ∈ after, q.key ≠ p.key) ∧
    (∀ p ∈ mergeParameters .override (shared ++ own),
      p.key ∈ own.map Parameter.key → p ∈ own) ∧
    mergeParameters .override (mergeParameters .override (shared ++ own)) =
      mergeParameters .override (shared ++ own) ∧
    (((shared ++ own).map Parameter.key).Nodup ↔
      mergeParameters .override (shared ++ own) = shared ++ own) ∧
    mergeParameters .concatenate (shared ++ own) = shared ++ own := by
  have hnodup := nodup_map_mergeParameters (shared ++ own)
  refine ⟨Keyed.firstSeen_gather _, fun p => Keyed.mem_gather_iff_last,
    fun p => mem_own_of_mem_mergeParameters, mergeParameters_of_nodup hnodup,
    ⟨mergeParameters_of_nodup, fun hsame => ?_⟩, rfl⟩
  rwa [hsame] at hnodup

/-- A parameter by its name, where it is sent and whether it has to be. -/
def sampleParameter (name : String) (location : Location) (required : Bool) : Parameter :=
  { name, type := .literal "string", location, required, description := none }

/-- What a path declares: one name at two locations, and another name. -/
def sampleShared : List Parameter :=
  [sampleParameter "id" .path false, sampleParameter "id" .query false,
    sampleParameter "limit" .query false]

/-- What an operation on the path declares. -/
def sampleOwn : List Parameter :=
  [sampleParameter "limit" .query true, sampleParameter "id" .path true]

theorem sampleOwn_overrides :
    mergeParameters .override (sampleShared ++ sampleOwn) =
      [sampleParameter "id" .path true, sampleParameter "id" .query false,
        sampleParameter "limit" .query true] ∧
    Keyed.FirstSeen ((sampleShared ++ sampleOwn).map Parameter.key)
      [("id", .path), ("id", .query), ("limit", .query)] ∧
    (∀ q ∈ sampleParameter "limit" .query false :: sampleOwn,
      q.key ≠ (sampleParameter "id" .query false).key) ∧
    sampleParameter "id" .query false ∈ mergeParameters .override (sampleShared ++ sampleOwn) ∧
    sampleParameter "id" .path true ∈ sampleOwn ∧
    ((sampleShared ++ []).map Parameter.key).Nodup ∧
    mergeParameters .override (sampleShared ++ []) = sampleShared ++ [] := by
  have hlater : ∀ q ∈ sampleParameter "limit" .query false :: sampleOwn,
      q.key ≠ (sampleParameter "id" .query false).key := by
    simp [sampleOwn, sampleParameter, Parameter.key]
  have hfirst : sampleParameter "id" .path true ∈
      mergeParameters .override (sampleShared ++ sampleOwn) := List.mem_cons_self
  have hkey : (sampleParameter "id" .path true).key ∈ sampleOwn.map Parameter.key :=
    List.mem_cons_of_mem _ List.mem_cons_self
  have hnodup : ((sampleShared ++ []).map Parameter.key).Nodup := by decide
  obtain ⟨hseen, hmem, hown, -, -, -⟩ := mergeParameters_keeps_last sampleShared sampleOwn
  obtain ⟨-, -, -, -, hsame, -⟩ := mergeParameters_keeps_last sampleShared []
  exact ⟨rfl, hseen, hlater, (hmem _).mpr ⟨[sampleParameter "id" .path false], _, rfl, hlater⟩,
    hown _ hfirst hkey, hnodup, hsame.mp hnodup⟩

end ApiTypes.Model
