import Mathlib.Data.List.Nodup
import UnitHealth.Proofs.Steps
import UnitHealth.Toml.Document

/-!
# Distinct names

A table names each of its entries once. It grows in three ways, and each keeps this. A new entry is
added only under a name that the table does not have, an entry that is there keeps its name when it
gets something else, and a table that gets its section late is dropped before it moves to the end.

So the entries of a document have distinct names, however its keys are dotted and whatever headers
there are.
-/

namespace UnitHealth.Toml

namespace Table

def names (t : Table) : List String :=
  t.map fun entry => entry.1.name

/-- A table that has no name twice. -/
def Distinct (t : Table) : Prop :=
  t.names.Nodup

variable {t t' : Table} {key : Key} {name : String} {node : Node}

@[simp] theorem names_push : (t.push key node).names = t.names ++ [key.name] := by
  simp [names, push]

@[simp] theorem names_replace : (t.replace name node).names = t.names := by
  rw [names, replace, List.map_map, names]
  refine List.map_congr_left fun entry _ => ?_
  rw [Function.comp_apply]
  split <;> rfl

theorem names_erase : (t.erase name).names = t.names.filter (· != name) := by
  rw [names, erase, names, List.filter_map]
  rfl

theorem get?_eq_none_iff : t.get? name = none ↔ name ∉ t.names := by
  rw [get?, Option.map_eq_none_iff, List.find?_eq_none]
  simp [names]

theorem get?_erase_self : (t.erase name).get? name = none := by
  rw [get?_eq_none_iff, names_erase]
  simp

/-! ## Growth -/

/-- How a table comes from another in one step, as far as its own entries go. -/
inductive Grows (t : Table) : Table → Prop where
  /-- A name that the table does not have is added at the end. -/
  | pushed {key : Key} {node : Node} (fresh : t.get? key.name = none) : Grows t (t.push key node)
  /-- What a name stands for changes. -/
  | replaced {name : String} {node : Node} : Grows t (t.replace name node)
  /-- An entry moves to the end. -/
  | moved {key : Key} {node : Node} : Grows t ((t.erase key.name).push key node)

theorem distinct_push (h : t.Distinct) (fresh : t.get? key.name = none) :
    (t.push key node).Distinct := by
  rw [Distinct, names_push, ← List.concat_eq_append]
  exact h.concat (get?_eq_none_iff.mp fresh)

theorem Distinct.grows (h : t.Distinct) (grows : Grows t t') : t'.Distinct := by
  cases grows with
  | pushed fresh => exact distinct_push h fresh
  | replaced => rwa [Distinct, names_replace]
  | moved =>
      refine distinct_push ?_ get?_erase_self
      rw [Distinct, names_erase]
      exact h.filter _

/-- A key grows a table by one step, whether keys follow after its dots or not. -/
theorem grows_assign {home : Option (List String)} {passed : List String} {others : List Key}
    (done : assign home node passed key others t = .ok t') : Grows t t' := by
  cases others with
  | nil =>
      rw [assign] at done
      split at done
      · cases done
      · next fresh =>
        obtain rfl := Except.ok.inj done
        exact .pushed (by simpa using fresh)
  | cons next others =>
      rw [assign] at done
      split at done
      · next fresh =>
        obtain ⟨sub, -, rfl⟩ := Steps.map_eq_ok_iff.mp done
        exact .pushed fresh
      · cases done
      · split at done
        · cases done
        · obtain ⟨sub, -, rfl⟩ := Steps.map_eq_ok_iff.mp done
          exact .replaced
      · obtain ⟨sub, -, rfl⟩ := Steps.map_eq_ok_iff.mp done
        exact .replaced
      · split at done
        · cases done
        · obtain ⟨sub, -, rfl⟩ := Steps.map_eq_ok_iff.mp done
          exact .replaced
      · cases done

/-- A header that changes its own table by one step grows the outermost table by one step. -/
theorem grows_under {h : Header} {change : Table → Except Refusal Table} {passed : List String}
    {parents : List Key} (change_grows : ∀ t t', change t = .ok t' → Grows t t')
    (done : under h change passed parents t = .ok t') : Grows t t' := by
  cases parents with
  | nil => exact change_grows t t' done
  | cons key others =>
      rw [under] at done
      split at done
      · next fresh =>
        obtain ⟨sub, -, rfl⟩ := Steps.map_eq_ok_iff.mp done
        exact .pushed fresh
      · obtain ⟨sub, -, rfl⟩ := Steps.map_eq_ok_iff.mp done
        exact .replaced
      · obtain ⟨sub, -, rfl⟩ := Steps.map_eq_ok_iff.mp done
        exact .replaced
      · cases done

theorem grows_define {h : Header} {place : Span} {fill : Table → Except Refusal Table}
    (done : define h place fill t = .ok t') : Grows t t' := by
  rw [define] at done
  split at done
  · next fresh =>
    obtain ⟨sub, -, rfl⟩ := Steps.map_eq_ok_iff.mp done
    exact .pushed fresh
  · obtain ⟨sub, -, rfl⟩ := Steps.map_eq_ok_iff.mp done
    exact .moved
  · cases done

theorem grows_append {h : Header} {place : Span} {fill : Table → Except Refusal Table}
    (done : append h place fill t = .ok t') : Grows t t' := by
  rw [append] at done
  split at done
  · next fresh =>
    obtain ⟨sub, -, rfl⟩ := Steps.map_eq_ok_iff.mp done
    exact .pushed fresh
  · obtain ⟨sub, -, rfl⟩ := Steps.map_eq_ok_iff.mp done
    exact .replaced
  · cases done

theorem grows_place {s : Section} (done : t.place s = .ok t') : Grows t t' := by
  refine grows_under ?_ done
  intro t t' changed
  split at changed
  · exact grows_append changed
  · exact grows_define changed

/-! ## Documents -/

theorem distinct_fill {path : List String} {assignments : List Assignment} (h : t.Distinct)
    (done : fill path assignments t = .ok t') : t'.Distinct := by
  refine Steps.keeps_foldlM ?_ h done
  intro t a t' distinct entered
  exact distinct.grows (grows_assign (Steps.mapError_eq_ok_iff.mp entered))

/-- The outermost table of a document names each of its entries once. -/
theorem distinct_ofStatements {statements : List Statement}
    (done : ofStatements statements = .ok t) : t.Distinct := by
  obtain ⟨root, filled, placed⟩ := Steps.bind_eq_ok_iff.mp done
  have empty_distinct : Distinct [] := List.nodup_nil
  have root_distinct : root.Distinct := distinct_fill empty_distinct filled
  exact Steps.keeps_foldlM (fun _ _ _ distinct place => distinct.grows (grows_place place))
    root_distinct placed

end Table

theorem Entry.ofNode_name (key : Key) (node : Node) : (Entry.ofNode key node).name = key.name := by
  cases node with
  | value v span => rfl
  | table origin sub => cases origin <;> rfl
  | tables span last => rfl

/-- No two entries of a document have the same name. -/
theorem nodup_names_of_entries {text : String} {es : List Entry} (document : entries text = .ok es) :
    (es.map Entry.name).Nodup := by
  obtain ⟨t, described, rest⟩ := Steps.bind_eq_ok_iff.mp document
  have distinct := Table.distinct_ofStatements described
  split at rest
  · cases rest
  · obtain rfl := Except.ok.inj rest
    rw [List.map_map]
    simpa [Table.Distinct, Table.names, Function.comp_def, Entry.ofNode_name] using distinct

end UnitHealth.Toml
