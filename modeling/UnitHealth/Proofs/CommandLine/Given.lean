import Mathlib.Data.List.Nodup
import Mathlib.Data.List.Perm.Basic
import UnitHealth.CommandLine.Parse
import UnitHealth.Proofs.Steps

/-!
# What a command line gives

A command line gives each of its two switches and two options at most once, and is known from what
it gives, in whatever order. Reading arguments adds what they give one after the other. A switch is
added when its argument is taken, and an option when it is settled, which may be later. Either is
added only where it has not been given before.
-/

namespace UnitHealth.CommandLine

/-! ## Things given -/

/-- A switch, or an option with its value. -/
inductive Given where
  | ignoreMasked
  | config (path : String)
  | systemctl (program : String)
  | verbose
  deriving DecidableEq

namespace Given

/-- What is given, without its value. -/
def named : Given → Named
  | ignoreMasked => .switch .ignoreMasked
  | config _ => .valued .config
  | systemctl _ => .valued .systemctl
  | verbose => .switch .verbose

/-- An option with a value. -/
def ofValued : Valued → String → Given
  | .config, path => config path
  | .systemctl, program => systemctl program

@[simp] theorem named_ofValued (v : Valued) (value : String) :
    (ofValued v value).named = .valued v := by
  cases v <;> rfl

end Given

/-- What a command line gives, in a fixed order. -/
def givens (line : CommandLine) : List Given :=
  (if line.ignoreMasked then [.ignoreMasked] else []) ++ line.config.toList.map .config ++
    line.systemctl.toList.map .systemctl ++ if line.verbose then [.verbose] else []

def names (line : CommandLine) : List Named :=
  line.givens.map Given.named

def add (line : CommandLine) : Given → CommandLine
  | .ignoreMasked => { line with ignoreMasked := true }
  | .config path => { line with config := some path }
  | .systemctl program => { line with systemctl := some program }
  | .verbose => { line with verbose := true }

section Givens

variable {line line' : CommandLine} {g : Given}

@[simp] theorem names_empty : empty.names = [] := rfl

theorem mem_givens : g ∈ line.givens ↔
    match g with
    | .ignoreMasked => line.ignoreMasked = true
    | .config path => line.config = some path
    | .systemctl program => line.systemctl = some program
    | .verbose => line.verbose = true := by
  cases g <;> simp [givens]

theorem mem_names {n : Named} : n ∈ line.names ↔
    match n with
    | .switch .ignoreMasked => line.ignoreMasked = true
    | .switch .verbose => line.verbose = true
    | .switch .help => False
    | .switch .version => False
    | .valued v => (valueOf line v).isSome = true := by
  obtain ⟨ignoreMasked, config, systemctl, verbose⟩ := line
  obtain (_ | _ | _ | _) | (_ | _) := n <;>
    cases ignoreMasked <;> cases config <;> cases systemctl <;> cases verbose <;>
      simp [names, givens, Given.named, valueOf]

theorem nodup_names (line : CommandLine) : line.names.Nodup := by
  obtain ⟨ignoreMasked, config, systemctl, verbose⟩ := line
  cases ignoreMasked <;> cases config <;> cases systemctl <;> cases verbose <;>
    simp [names, givens, Given.named]

/-- A command line is known from what it gives, in any order. -/
theorem eq_of_perm_givens (perm : line.givens.Perm line'.givens) : line = line' := by
  have same : ∀ g, g ∈ line.givens ↔ g ∈ line'.givens := fun g => perm.mem_iff
  simp only [mem_givens] at same
  obtain ⟨ignoreMasked, config, systemctl, verbose⟩ := line
  obtain ⟨ignoreMasked', config', systemctl', verbose'⟩ := line'
  obtain rfl : ignoreMasked = ignoreMasked' := Bool.eq_iff_iff.mpr (same .ignoreMasked)
  obtain rfl : config = config' := Option.ext fun path => same (.config path)
  obtain rfl : systemctl = systemctl' := Option.ext fun program => same (.systemctl program)
  obtain rfl : verbose = verbose' := Bool.eq_iff_iff.mpr (same .verbose)
  rfl

theorem perm_givens_add (fresh : g.named ∉ line.names) :
    (line.add g).givens.Perm (g :: line.givens) := by
  obtain ⟨ignoreMasked, config, systemctl, verbose⟩ := line
  rw [mem_names] at fresh
  cases g with
  | ignoreMasked =>
      obtain rfl : ignoreMasked = false := by simpa [Given.named] using fresh
      exact .refl _
  | config path =>
      obtain rfl : config = none := by simpa [Given.named, valueOf] using fresh
      simp only [givens, add, Option.toList_some, Option.toList_none, List.map_cons, List.map_nil,
        List.append_nil, List.append_assoc, List.singleton_append]
      exact List.perm_middle
  | systemctl program =>
      obtain rfl : systemctl = none := by simpa [Given.named, valueOf] using fresh
      simp only [givens, add, Option.toList_some, Option.toList_none, List.map_cons, List.map_nil,
        List.append_nil, List.append_assoc _ [_], List.singleton_append]
      exact List.perm_middle
  | verbose =>
      obtain rfl : verbose = false := by simpa [Given.named] using fresh
      simp only [givens, add, Bool.false_eq_true, if_true, if_false, List.append_nil]
      exact List.perm_append_singleton _ _

theorem perm_names_add (fresh : g.named ∉ line.names) :
    (line.add g).names.Perm (g.named :: line.names) :=
  (perm_givens_add fresh).map Given.named

end Givens

/-! ## Settling -/

/-- What may be given: a configuration file has to have a name. -/
def Given.Admitted (g : Given) : Prop :=
  g ≠ .config ""

theorem admitted_ofValued_iff {v : Valued} {value : String} :
    (Given.ofValued v value).Admitted ↔ ¬ (value.isEmpty && !admitsEmpty v) = true := by
  cases v <;> simp [Given.Admitted, Given.ofValued, admitsEmpty]

/-- An option is settled when it has a value that it admits and was not settled before, and then it
is added. -/
theorem settle_eq_ok_iff {line line' : CommandLine} {v : Valued} {value? : Option String} :
    settle line v value? = .ok line' ↔
      ∃ value, value? = some value ∧ .valued v ∉ line.names ∧ (Given.ofValued v value).Admitted ∧
        line' = line.add (.ofValued v value) := by
  cases value? with
  | none => simp [settle]
  | some value =>
      have added : withValue line value v = line.add (.ofValued v value) := by cases v <;> rfl
      simp only [settle, Option.some.injEq, exists_eq_left', admitted_ofValued_iff, mem_names,
        added]
      split
      · next before => simp [before]
      · next fresh =>
        split
        · next refused => simp [refused]
        · next admitted => simp [fresh, admitted, eq_comm]

namespace Progress

variable {p q : Progress}

/-- A switch is turned on when it was not on before, and then it is added. -/
theorem turnOn_eq_ok_iff {s : Switch} : p.turnOn s = .ok q ↔
    ∃ g : Given, g.named = .switch s ∧ g.named ∉ p.options.names ∧
      q = { p with options := p.options.add g } := by
  cases s with
  | ignoreMasked =>
      have only : ∀ g : Given, g.named = .switch .ignoreMasked ↔ g = .ignoreMasked := by
        intro g
        cases g <;> simp [Given.named]
      simp only [only, exists_eq_left, turnOn]
      cases on : p.options.ignoreMasked <;> simp [on, mem_names, Given.named, add, eq_comm]
  | verbose =>
      have only : ∀ g : Given, g.named = .switch .verbose ↔ g = .verbose := by
        intro g
        cases g <;> simp [Given.named]
      simp only [only, exists_eq_left, turnOn]
      cases on : p.options.verbose <;> simp [on, mem_names, Given.named, add, eq_comm]
  | help =>
      refine ⟨nofun, ?_⟩
      rintro ⟨_ | _ | _ | _, ⟨⟩, -⟩
  | version =>
      refine ⟨nofun, ?_⟩
      rintro ⟨_ | _ | _ | _, ⟨⟩, -⟩

/-! ## Forms of arguments -/

/-- An argument is two hyphens, begins with two hyphens, begins with one, or names nothing. -/
theorem argument_cases (cs : List Char) :
    cs = ['-', '-'] ∨ (∃ rest, rest ≠ [] ∧ cs = '-' :: '-' :: rest) ∨
      (∃ c rest, c ≠ '-' ∧ cs = '-' :: c :: rest) ∨ cs = ['-'] ∨ cs.head? ≠ some '-' := by
  match cs with
  | [] => simp
  | [c] => by_cases hyphen : c = '-' <;> simp [hyphen]
  | c :: d :: rest =>
      by_cases hyphen : c = '-'
      · by_cases second : d = '-'
        · by_cases last : rest = [] <;> simp [hyphen, second, last]
        · simp [hyphen, second]
      · simp [hyphen]

variable {argument : String} {c : Char} {cs : List Char}

theorem take_hyphens (unclosed : p.closed = false) (text : argument.toList = ['-', '-']) :
    p.take argument = .ok { p with closed := true } := by
  simp [take, unclosed, text]

theorem take_long (unclosed : p.closed = false) (ne : cs ≠ [])
    (text : argument.toList = '-' :: '-' :: cs) : p.take argument = p.takeLong cs := by
  simp [take, unclosed, text]

theorem take_cluster (unclosed : p.closed = false) (ne : c ≠ '-')
    (text : argument.toList = '-' :: c :: cs) : p.take argument = p.takeCluster (c :: cs) := by
  simp [take, unclosed, text, ne]

theorem take_text (unclosed : p.closed = false)
    (text : argument.toList = ['-'] ∨ argument.toList.head? ≠ some '-') :
    p.take argument = p.takeText argument := by
  rw [take, unclosed, if_neg Bool.false_ne_true]
  obtain text | text := text
  · simp [text]
  · cases chars : argument.toList with
    | nil => rfl
    | cons first rest =>
        have ne : first ≠ '-' := by simpa [chars] using text
        simp [ne]

end Progress

end UnitHealth.CommandLine
