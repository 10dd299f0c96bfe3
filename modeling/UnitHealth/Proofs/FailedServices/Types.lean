import UnitHealth.FailedServices
import UnitHealth.Proofs.Text.Split

/-!
# Types of units

The type of a unit is the text after the last dot of its name. The check takes a unit for a service
when `.service` occurs in its name, which is wider than having this type: a name also passes when
`.service` occurs before the last dot, and when its type goes on after `service`. Such a name is
disguised as one of a service.

The main statement says what this means for a report. Every name in it is that of a service or
disguised. Among the units of other types, those that are disguised, have failed and are not excused
are reported, and all others leave the report and the verdict as they are without them.
-/

namespace UnitHealth

/-- A name is a stem, a dot, and a type without a dot. -/
structure HasType (name stem type : String) : Prop where
  toList_eq : name.toList = stem.toList ++ '.' :: type.toList
  no_dot : '.' ∉ type.toList

/-- Whether the text after the last dot of a name is `service`. -/
def IsService (name : String) : Prop :=
  ∃ stem, HasType name stem "service"

/-- Whether a name of another type has `.service` before its last dot, or a type that begins with
`service`. -/
def Disguised (name : String) : Prop :=
  ∃ stem type, HasType name stem type ∧ type ≠ "service" ∧
    (".service".toList <:+: stem.toList ∨ "service".toList <+: type.toList)

namespace HasType

variable {name stem stem' type type' : String}

theorem unique (h : HasType name stem type) (h' : HasType name stem' type') :
    stem = stem' ∧ type = type' := by
  obtain ⟨hs, ht⟩ := Text.eq_of_append_cons_eq_of_last (h.toList_eq.symm.trans h'.toList_eq)
    h.no_dot h'.no_dot
  exact ⟨String.toList_injective hs, String.toList_injective ht⟩

theorem isService_iff (h : HasType name stem type) : IsService name ↔ type = "service" := by
  constructor
  · rintro ⟨other, typed⟩
    exact (h.unique typed).2
  · rintro rfl
    exact ⟨stem, h⟩

theorem disguised_iff (h : HasType name stem type) :
    Disguised name ↔ type ≠ "service" ∧
      (".service".toList <:+: stem.toList ∨ "service".toList <+: type.toList) := by
  constructor
  · rintro ⟨stem', type', typed, occurs⟩
    obtain ⟨rfl, rfl⟩ := h.unique typed
    exact occurs
  · exact fun occurs => ⟨stem, type, h, occurs⟩

theorem exists_of_mem (h : '.' ∈ name.toList) : ∃ stem type, HasType name stem type := by
  obtain ⟨back, front, split, fresh⟩ := List.eq_append_cons_of_mem (List.mem_reverse.mpr h)
  refine ⟨String.ofList front.reverse, String.ofList back.reverse, ?_, by simpa using fresh⟩
  have unreversed := congrArg List.reverse split
  simpa using unreversed

end HasType

/-- A text without a dot begins what stands before a dot when it begins the whole. -/
theorem prefix_of_prefix_append_dot {q a b : List Char} (fresh : '.' ∉ q)
    (h : q <+: a ++ '.' :: b) : q <+: a := by
  obtain within | ⟨rest, rfl⟩ := List.prefix_or_prefix_of_prefix h (List.prefix_append a _)
  · exact within
  · rw [List.prefix_append_right_inj] at h
    cases rest with
    | nil => simp
    | cons c rest =>
        obtain ⟨rfl, -⟩ := List.cons_prefix_cons.mp h
        simp at fresh

/-- A dot with a text after it occurs in a name of some type in the stem, or the type begins with
the text. -/
theorem dot_infix_iff {q stem type : List Char} (fresh : '.' ∉ q) (no_dot : '.' ∉ type) :
    '.' :: q <:+: stem ++ '.' :: type ↔ '.' :: q <:+: stem ∨ q <+: type := by
  induction stem with
  | nil =>
      have outside : ¬ '.' :: q <:+: type := fun h => no_dot (h.subset List.mem_cons_self)
      simp [List.infix_cons_iff, outside]
  | cons c stem ih =>
      have within : '.' :: q <+: c :: (stem ++ '.' :: type) ↔ '.' :: q <+: c :: stem := by
        rw [List.cons_prefix_cons, List.cons_prefix_cons]
        refine and_congr_right fun _ => ⟨prefix_of_prefix_append_dot fresh, fun h => ?_⟩
        exact h.trans (List.prefix_append _ _)
      rw [List.cons_append, List.infix_cons_iff, List.infix_cons_iff, ih, within, or_assoc]

/-- `.service` occurs in a name exactly when the name is that of a service or disguised. -/
theorem service_infix_iff {name : String} :
    ".service".toList <:+: name.toList ↔ IsService name ∨ Disguised name := by
  have dotted : ".service".toList = '.' :: "service".toList := rfl
  have fresh : '.' ∉ "service".toList := by decide
  constructor
  · intro occurs
    have dot : '.' ∈ name.toList := occurs.subset (by simp [dotted])
    obtain ⟨stem, type, typed⟩ := HasType.exists_of_mem dot
    by_cases service : type = "service"
    · exact .inl ⟨stem, service ▸ typed⟩
    · rw [typed.toList_eq, dotted, dot_infix_iff fresh typed.no_dot] at occurs
      exact .inr ⟨stem, type, typed, service, occurs⟩
  · rintro (⟨stem, typed⟩ | ⟨stem, type, typed, -, occurs⟩)
    · rw [typed.toList_eq]
      exact (List.suffix_append _ _).isInfix
    · rw [typed.toList_eq, dotted, dot_infix_iff fresh typed.no_dot]
      exact occurs

theorem ManagedUnit.isService_iff {unit : ManagedUnit} :
    unit.isService = true ↔ IsService unit.name ∨ Disguised unit.name := by
  rw [isService, Text.contains_iff, service_infix_iff]

/-- Of the units of other types, the disguised ones are reported when they have failed. -/
theorem Policy.reports_iff_of_not_isService {policy : Policy} {unit : ManagedUnit}
    (h : ¬ IsService unit.name) :
    policy.reports unit = true ↔
      Disguised unit.name ∧ unit.active.isFailed = true ∧ policy.excuses unit = false := by
  have service : unit.isService = true ↔ Disguised unit.name := by
    rw [ManagedUnit.isService_iff, or_iff_right h]
  simp only [reports, ManagedUnit.isFailedService, Bool.and_eq_true, Bool.not_eq_true', service,
    and_assoc]

section Report

variable {policy : Policy} {unit : ManagedUnit}

theorem isService_or_disguised_of_mem {units : List ManagedUnit} {name : String}
    (h : name ∈ failedServices policy units) : IsService name ∨ Disguised name := by
  obtain ⟨unit, kept, rfl⟩ := List.mem_map.mp h
  have reported := (List.mem_filter.mp kept).2
  simp only [Policy.reports, ManagedUnit.isFailedService, Bool.and_eq_true] at reported
  exact ManagedUnit.isService_iff.mp reported.1.1

theorem failedServices_keep (h : policy.reports unit = true) (before after : List ManagedUnit) :
    failedServices policy (before ++ unit :: after) =
        failedServices policy before ++ unit.name :: failedServices policy after ∧
      (Verdict.ofUnits policy (before ++ unit :: after)).status = .critical := by
  have names : failedServices policy (before ++ unit :: after) =
      failedServices policy before ++ unit.name :: failedServices policy after := by
    rw [failedServices_append]
    simp [failedServices, h]
  refine ⟨names, ?_⟩
  obtain ⟨name, others, occupied⟩ :=
    List.exists_cons_of_ne_nil (List.append_ne_nil_of_right_ne_nil (failedServices policy before)
      (List.cons_ne_nil unit.name (failedServices policy after)))
  rw [Verdict.ofUnits, names, occupied]
  rfl

theorem failedServices_drop (h : ¬ policy.reports unit = true) (before after : List ManagedUnit) :
    failedServices policy (before ++ unit :: after) = failedServices policy (before ++ after) ∧
      Verdict.ofUnits policy (before ++ unit :: after) =
        Verdict.ofUnits policy (before ++ after) := by
  have names : failedServices policy (before ++ unit :: after) =
      failedServices policy (before ++ after) := by
    rw [failedServices, failedServices, List.filter_append, List.filter_cons_of_neg h,
      ← List.filter_append]
  exact ⟨names, by rw [Verdict.ofUnits, Verdict.ofUnits, names]⟩

end Report

/-- Every name in a report is that of a service or disguised. A unit of another type that is
disguised, has failed and is not excused is reported and makes the verdict critical. Any other unit
of another type changes neither the report nor the verdict. -/
theorem report_by_type (policy : Policy) :
    (∀ units, ∀ name ∈ failedServices policy units, IsService name ∨ Disguised name) ∧
      ∀ before unit after, ¬ IsService unit.name →
        (Disguised unit.name ∧ unit.active.isFailed = true ∧ policy.excuses unit = false →
          failedServices policy (before ++ unit :: after) =
              failedServices policy before ++ unit.name :: failedServices policy after ∧
            (Verdict.ofUnits policy (before ++ unit :: after)).status = .critical) ∧
        (¬ (Disguised unit.name ∧ unit.active.isFailed = true ∧ policy.excuses unit = false) →
          failedServices policy (before ++ unit :: after) = failedServices policy (before ++ after) ∧
            Verdict.ofUnits policy (before ++ unit :: after) =
              Verdict.ofUnits policy (before ++ after)) := by
  refine ⟨fun _ _ => isService_or_disguised_of_mem, fun before unit after other => ?_⟩
  rw [← Policy.reports_iff_of_not_isService other]
  exact ⟨fun reported => failedServices_keep reported before after,
    fun silent => failedServices_drop silent before after⟩

/-- The mount of the credentials of a service is reported when it fails, and a plain mount is not. -/
theorem report_by_type_of_mounts :
    ∃ plain disguised : ManagedUnit,
      plain = .ofColumns "proc.mount" "loaded" "failed" "mounted" "" ∧
      disguised = .ofColumns "foo.service.mount" "loaded" "failed" "mounted" "" ∧
      failedServices ⟨false⟩ [disguised, plain] = ["foo.service.mount"] := by
  refine ⟨_, _, rfl, rfl, ?_⟩
  have typed : HasType "proc.mount" "proc" "mount" := ⟨rfl, by decide⟩
  have typed' : HasType "foo.service.mount" "foo.service" "mount" := ⟨rfl, by decide⟩
  have undisguised : ¬ Disguised "proc.mount" := by
    rw [typed.disguised_iff]
    decide +kernel
  have disguised : Disguised "foo.service.mount" := by
    rw [typed'.disguised_iff]
    decide +kernel
  obtain ⟨-, others⟩ := report_by_type ⟨false⟩
  obtain ⟨-, drop⟩ := others [.ofColumns "foo.service.mount" "loaded" "failed" "mounted" ""]
    (.ofColumns "proc.mount" "loaded" "failed" "mounted" "") []
    (by simp [typed.isService_iff])
  obtain ⟨keep, -⟩ := others [] (.ofColumns "foo.service.mount" "loaded" "failed" "mounted" "") []
    (by simp [typed'.isService_iff])
  have first := (drop fun h => undisguised h.1).1
  have second := (keep ⟨disguised, by decide +kernel, rfl⟩).1
  exact first.trans second

/-- The type of a unit does not decide: a mount with `.service` inside its name is reported. -/
theorem service_mount_reported :
    ¬ IsService "run-credentials-foo.service.mount" ∧
      failedServices ⟨false⟩
          [.ofColumns "run-credentials-foo.service.mount" "loaded" "failed" "mounted" ""] =
        ["run-credentials-foo.service.mount"] ∧
      Verdict.ofUnits ⟨false⟩
          [.ofColumns "run-credentials-foo.service.mount" "loaded" "failed" "mounted" ""] =
        ⟨.critical, "Found failed service units: run-credentials-foo.service.mount,"⟩ := by
  have typed : HasType "run-credentials-foo.service.mount" "run-credentials-foo.service" "mount" :=
    ⟨rfl, by decide⟩
  refine ⟨?_, by decide +kernel, by decide +kernel⟩
  rw [typed.isService_iff]
  decide

end UnitHealth
