import Mathlib.Data.List.Nodup
import RecordLocks.Json.Coded
import RecordLocks.Proofs.JsonText
namespace RecordLocks.Json

variable {names : List String} {members : List (String × Document)}

theorem head?_filter (members : List (String × Document)) (name : String) :
    (members.filter fun member => member.1 = name).head?.map (·.2) = members.lookup name := by
  induction members with
  | nil => rfl
  | cons member members ih =>
    obtain ⟨key, value⟩ := member
    by_cases same : key = name
    · rw [List.filter_cons_of_pos (by simpa using same)]
      simp [same]
    · rw [List.filter_cons_of_neg (by simpa using same), ih, List.lookup_cons,
        beq_false_of_ne (Ne.symm same)]

theorem mapM_keyed (members : List (String × Document)) :
    (members.map fun member => (some member.1, member.2)).mapM
      (fun member : Option String × Document => member.1.map (·, member.2)) = some members := by
  induction members with
  | nil => rfl
  | cons member members ih => simp [ih]

/-- The fields of an object are its members under the names, if none of these is there twice. -/
theorem fields?_object (partly : Bool)
    (once : ∀ name ∈ names, (members.filter fun member => member.1 = name).length ≤ 1) :
    (Document.object (members.map fun member => (some member.1, member.2))).fields? names partly =
      some (names.map fun name => members.lookup name) := by
  have single : (names.map fun name => members.filter fun member => member.1 = name).any
      (fun found => found.length > 1) = false := by
    simpa using once
  simp only [Document.fields?, mapM_keyed, Option.bind_eq_bind, Option.bind_some, single,
    Bool.false_eq_true, if_false, List.map_map, Option.pure_def, Function.comp_def, head?_filter]

/-- An object has no member twice, if no two of its keys are equal. -/
theorem length_filter_le_one (distinct : (members.map Prod.fst).Nodup) (name : String) :
    (members.filter fun member => member.1 = name).length ≤ 1 := by
  have counted := List.nodup_iff_count_le_one.mp distinct name
  rw [List.count, List.countP_map, List.countP_eq_length_filter] at counted
  exact counted

theorem lookup_members (distinct : (members.map Prod.fst).Nodup) :
    (members.map Prod.fst).map (fun name => members.lookup name) =
      members.map fun member => some member.2 := by
  induction members with
  | nil => rfl
  | cons member members ih =>
    obtain ⟨key, value⟩ := member
    obtain ⟨new, distinct⟩ := List.nodup_cons.mp distinct
    have further : (members.map Prod.fst).map (fun name => ((key, value) :: members).lookup name) =
        (members.map Prod.fst).map fun name => members.lookup name := by
      refine List.map_congr_left fun name inside => ?_
      have other : name ≠ key := fun same => new (same ▸ inside)
      rw [List.lookup_cons, beq_false_of_ne other]
    simp only [List.map_cons, List.lookup_cons_self, further, ih distinct]

/-- What is written as the fields of a record is read as these fields. -/
theorem fields?_document {members : List (String × Json)} (partly : Bool)
    (distinct : (members.map Prod.fst).Nodup) :
    (Json.object members).document.fields? (members.map Prod.fst) partly =
      some (members.map fun member => some member.2.document) := by
  let read := members.map fun member => (member.1, member.2.document)
  have keys : read.map Prod.fst = members.map Prod.fst := by simp [read, Function.comp_def]
  have written : (Json.object members).document =
      Document.object (read.map fun member => (some member.1, member.2)) := by
    simp [document, memberDocuments_eq, read, Function.comp_def]
  have distinct : (read.map Prod.fst).Nodup := keys ▸ distinct
  rw [written, ← keys, fields?_object partly fun name _ => length_filter_le_one distinct name,
    lookup_members distinct]
  simp [read, Function.comp_def]

end RecordLocks.Json
