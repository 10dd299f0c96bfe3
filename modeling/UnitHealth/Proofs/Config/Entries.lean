import Mathlib.Data.List.Perm.Subperm
import UnitHealth.Config.Basic
import UnitHealth.Proofs.Toml.Distinct

/-!
# What a document may set

A document is a configuration exactly when each of its entries sets something: the flag by a
boolean, or the program by a string. Since names are distinct there are two such entries at most,
and their order does not matter.

Any other entry offends, in one way. A document with offending entries is rejected for the first of
them, whatever stands after it, and the entries before it matter only in that they do not offend.
-/

namespace UnitHealth.FileConfig

/-! ## Entries -/

/-- What an entry says, apart from where it stands. -/
def content (e : Toml.Entry) : String × Toml.Value :=
  (e.name, e.value)

/-- An entry that sets something. -/
inductive Fits (e : Toml.Entry) : Prop where
  | flag {b : Bool} (name : e.name = "ignore_masked") (value : e.value = .boolean b)
  | program {s : String} (name : e.name = "systemctl") (value : e.value = .string s)

/-- What is wrong with an entry that sets nothing. A name that is no setting is to blame as it is
written, and a setting of the wrong type is to blame by its value. -/
inductive Offends (e : Toml.Entry) : Offence → Prop where
  | unknown (no_flag : e.name ≠ "ignore_masked") (no_program : e.name ≠ "systemctl") :
      Offends e ⟨e.keySpan, .unknownField e.name⟩
  | flag (name : e.name = "ignore_masked") (value : ∀ b, e.value ≠ .boolean b) :
      Offends e ⟨e.place, .wrongType e.value "a boolean"⟩
  | program (name : e.name = "systemctl") (value : ∀ s, e.value ≠ .string s) :
      Offends e ⟨e.place, .wrongType e.value "a string"⟩

/-- What one entry does to a configuration. -/
inductive Enters (config : FileConfig) (e : Toml.Entry) : Except Offence FileConfig → Prop where
  | flag {b : Bool} (name : e.name = "ignore_masked") (value : e.value = .boolean b) :
      Enters config e (.ok { config with ignoreMasked := some b })
  | program {s : String} (name : e.name = "systemctl") (value : e.value = .string s) :
      Enters config e (.ok { config with systemctl := some s })
  | offends {o : Offence} (offends : Offends e o) : Enters config e (.error o)

variable {config config' : FileConfig} {e : Toml.Entry} {o o' : Offence}

theorem enters_enter (config : FileConfig) (e : Toml.Entry) :
    Enters config e (enter config e) := by
  rw [enter]
  split
  · next name =>
    split
    · next value => exact .flag name value
    · next other => exact .offends (.flag name other)
  · next name =>
    split
    · next value => exact .program name value
    · next other => exact .offends (.program name other)
  · next no_flag no_program => exact .offends (.unknown no_flag no_program)

theorem ne_program_of_flag (name : e.name = "ignore_masked") : e.name ≠ "systemctl" := by
  rw [name]
  decide

theorem Offends.not_fits (h : Offends e o) : ¬ Fits e := by
  rintro (⟨name, value⟩ | ⟨name, value⟩)
  · cases h with
    | unknown no_flag _ => exact no_flag name
    | flag _ other => exact other _ value
    | program name' _ => exact ne_program_of_flag name name'
  · cases h with
    | unknown _ no_program => exact no_program name
    | flag name' _ => exact ne_program_of_flag name' name
    | program _ other => exact other _ value

theorem Offends.unique (h : Offends e o) (h' : Offends e o') : o = o' := by
  cases h with
  | unknown no_flag no_program =>
      cases h' with
      | unknown => rfl
      | flag name => exact absurd name no_flag
      | program name => exact absurd name no_program
  | flag name =>
      cases h' with
      | unknown no_flag => exact absurd name no_flag
      | flag => rfl
      | program name' => exact absurd name' (ne_program_of_flag name)
  | program name =>
      cases h' with
      | unknown _ no_program => exact absurd name no_program
      | flag name' => exact absurd name (ne_program_of_flag name')
      | program => rfl

/-- An entry is rejected for what is wrong with it, whatever is set already. -/
theorem enter_eq_error_iff : enter config e = .error o ↔ Offends e o := by
  have enters := enters_enter config e
  generalize enter config e = outcome at enters
  cases enters with
  | flag name value => exact ⟨nofun, fun offends => absurd (.flag name value) offends.not_fits⟩
  | program name value =>
      exact ⟨nofun, fun offends => absurd (.program name value) offends.not_fits⟩
  | @offends o' offends =>
      constructor
      · rintro ⟨⟩
        exact offends
      · intro offends'
        rw [offends.unique offends']

theorem fits_of_enter (entered : enter config e = .ok config') : Fits e := by
  have enters := enters_enter config e
  rw [entered] at enters
  cases enters with
  | flag name value => exact .flag name value
  | program name value => exact .program name value

/-! ## Documents -/

/-- A configuration with the values of some entries: each setting has the value of the entry with
its name, and is open where there is none. -/
structure Holds (config : FileConfig) (entries : List Toml.Entry) : Prop where
  flag : ∀ b, config.ignoreMasked = some b ↔
    ("ignore_masked", Toml.Value.boolean b) ∈ entries.map content
  program : ∀ s, config.systemctl = some s ↔
    ("systemctl", Toml.Value.string s) ∈ entries.map content

variable {entries entries' before : List Toml.Entry}

theorem Holds.unique (h : Holds config entries) (h' : Holds config' entries) :
    config = config' := by
  obtain ⟨flag, program⟩ := config
  obtain ⟨flag', program'⟩ := config'
  have flags : flag = flag' := Option.ext fun b => (h.flag b).trans (h'.flag b).symm
  have programs : program = program' := Option.ext fun s => (h.program s).trans (h'.program s).symm
  rw [flags, programs]

theorem holds_empty : Holds empty [] := ⟨by simp, by simp⟩

/-- A further entry of another name adds its value. -/
theorem Holds.enter (h : Holds config before) (fresh : ∀ b ∈ before, b.name ≠ e.name)
    (entered : FileConfig.enter config e = .ok config') : Holds config' (before ++ [e]) := by
  have absent : ∀ value, (e.name, value) ∉ before.map content := by
    intro value mem
    obtain ⟨b, mem, same⟩ := List.mem_map.mp mem
    exact fresh b mem (Prod.mk.inj same).1
  have enters := enters_enter config e
  rw [entered] at enters
  cases enters with
  | flag name value =>
      rw [name] at absent
      refine ⟨fun b => ?_, fun s => ?_⟩
      · simp [content, name, value, absent, eq_comm]
      · simp [content, name, h.program s]
  | program name value =>
      rw [name] at absent
      refine ⟨fun b => ?_, fun s => ?_⟩
      · simp [content, name, h.flag b]
      · simp [content, name, value, absent, eq_comm]

/-- Entries that are all entered leave their values, besides those of the entries before. -/
theorem Holds.foldlM (h : Holds config before)
    (distinct : ((before ++ entries).map Toml.Entry.name).Nodup)
    (done : entries.foldlM FileConfig.enter config = .ok config') :
    Holds config' (before ++ entries) := by
  induction entries generalizing before config with
  | nil =>
      obtain rfl : config = config' := Except.ok.inj done
      rwa [List.append_nil]
  | cons e entries ih =>
      rw [List.foldlM_cons, Steps.bind_eq_ok_iff] at done
      obtain ⟨next, entered, rest⟩ := done
      have fresh : ∀ b ∈ before, b.name ≠ e.name := by
        intro b mem same
        rw [List.map_append, List.nodup_append] at distinct
        exact distinct.2.2 b.name (List.mem_map_of_mem mem) e.name (by simp) same
      rw [List.append_cons] at distinct ⊢
      exact ih (h.enter fresh entered) distinct rest

/-- Entries are all entered exactly when they fit. -/
theorem exists_foldlM_enter_eq_ok_iff :
    (∃ config', entries.foldlM enter config = .ok config') ↔ ∀ e ∈ entries, Fits e := by
  induction entries generalizing config with
  | nil => exact ⟨fun _ => nofun, fun _ => ⟨config, rfl⟩⟩
  | cons e entries ih =>
      rw [List.foldlM_cons, List.forall_mem_cons]
      cases outcome : enter config e with
      | error o =>
          have misfit := (enter_eq_error_iff.mp outcome).not_fits
          exact ⟨nofun, fun fits => absurd fits.1 misfit⟩
      | ok next =>
          change (∃ config', entries.foldlM enter next = .ok config') ↔ _
          rw [ih, and_iff_right (fits_of_enter outcome)]

/-- Some entries begin with ones that fit, and then have one with which this is wrong. -/
def FirstOffence (entries : List Toml.Entry) (o : Offence) : Prop :=
  ∃ before e after, entries = before ++ e :: after ∧ (∀ b ∈ before, Fits b) ∧ Offends e o

theorem firstOffence_cons_of_fits (fits : Fits e) :
    FirstOffence (e :: entries) o ↔ FirstOffence entries o := by
  constructor
  · rintro ⟨before, _, after, split, earlier, offends⟩
    cases before with
    | nil =>
        obtain ⟨rfl, -⟩ := List.cons.inj split
        exact absurd fits offends.not_fits
    | cons first rest =>
        obtain ⟨-, rfl⟩ := List.cons.inj split
        exact ⟨rest, _, after, rfl, (List.forall_mem_cons.mp earlier).2, offends⟩
  · rintro ⟨before, _, after, rfl, earlier, offends⟩
    exact ⟨e :: before, _, after, rfl, List.forall_mem_cons.mpr ⟨fits, earlier⟩, offends⟩

theorem firstOffence_cons_of_offends (offends : Offends e o) :
    FirstOffence (e :: entries) o' ↔ o = o' := by
  constructor
  · rintro ⟨before, _, after, split, earlier, offends'⟩
    cases before with
    | nil =>
        obtain ⟨rfl, -⟩ := List.cons.inj split
        exact offends.unique offends'
    | cons first rest =>
        obtain ⟨rfl, -⟩ := List.cons.inj split
        exact absurd (earlier e List.mem_cons_self) offends.not_fits
  · rintro rfl
    exact ⟨[], e, entries, rfl, nofun, offends⟩

/-- Entries are rejected exactly for the first of them that offends. -/
theorem foldlM_enter_eq_error_iff :
    entries.foldlM enter config = .error o ↔ FirstOffence entries o := by
  induction entries generalizing config with
  | nil =>
      refine ⟨nofun, ?_⟩
      rintro ⟨before, e, after, split, -, -⟩
      simp at split
  | cons e entries ih =>
      rw [List.foldlM_cons]
      cases outcome : enter config e with
      | error o' =>
          rw [firstOffence_cons_of_offends (enter_eq_error_iff.mp outcome)]
          exact Except.error.injEq o' o ▸ Iff.rfl
      | ok next =>
          rw [firstOffence_cons_of_fits (fits_of_enter outcome)]
          exact ih

/-- Entries that set something are two at most, since there are two names for them. -/
theorem length_le_two (distinct : (entries.map Toml.Entry.name).Nodup)
    (fits : ∀ e ∈ entries, Fits e) : entries.length ≤ 2 := by
  have names : entries.map Toml.Entry.name ⊆ ["ignore_masked", "systemctl"] := by
    intro name mem
    obtain ⟨e, mem', rfl⟩ := List.mem_map.mp mem
    obtain ⟨flag, -⟩ | ⟨program, -⟩ := fits e mem'
    · simp [flag]
    · simp [program]
  have bound : (entries.map Toml.Entry.name).length ≤ 2 := (distinct.subperm names).length_le
  rwa [List.length_map] at bound

theorem fits_iff_content : Fits e ↔
    (∃ b, content e = ("ignore_masked", .boolean b)) ∨
      ∃ s, content e = ("systemctl", .string s) := by
  simp only [content, Prod.mk.injEq]
  constructor
  · rintro (⟨name, value⟩ | ⟨name, value⟩)
    · exact .inl ⟨_, name, value⟩
    · exact .inr ⟨_, name, value⟩
  · rintro (⟨b, name, value⟩ | ⟨s, name, value⟩)
    · exact .flag name value
    · exact .program name value

/-- Entries that fit do so in any order, and hold the same values. -/
theorem forall_fits_of_perm (perm : (entries'.map content).Perm (entries.map content))
    (fits : ∀ e ∈ entries, Fits e) : ∀ e ∈ entries', Fits e := by
  intro e' mem'
  obtain ⟨e, mem, same⟩ := List.mem_map.mp (perm.mem_iff.mp (List.mem_map_of_mem mem'))
  rw [fits_iff_content, ← same, ← fits_iff_content]
  exact fits e mem

theorem Holds.of_perm (h : Holds config entries')
    (perm : (entries'.map content).Perm (entries.map content)) : Holds config entries where
  flag b := (h.flag b).trans perm.mem_iff
  program s := (h.program s).trans perm.mem_iff

/-! ## Texts -/

variable {text : String}

/-- The reading of a document is that of its entries, with a remark on what is wrong. -/
theorem parse_of_entries (document : Toml.entries text = .ok entries) :
    parse text =
      (ofEntries entries).mapError fun o => .misfit (.ofSpan text o.span o.misfit.message) := by
  rw [parse, document]
  cases outcome : ofEntries entries <;> simp [outcome, Except.mapError]

theorem exists_parse_eq_ok_iff (document : Toml.entries text = .ok entries) :
    (∃ config, parse text = .ok config) ↔ ∀ e ∈ entries, Fits e := by
  simp only [parse_of_entries document, Steps.mapError_eq_ok_iff]
  exact exists_foldlM_enter_eq_ok_iff

theorem holds_of_parse (document : Toml.entries text = .ok entries)
    (accepted : parse text = .ok config) : Holds config entries := by
  rw [parse_of_entries document, Steps.mapError_eq_ok_iff] at accepted
  exact holds_empty.foldlM (Toml.nodup_names_of_entries document) accepted

theorem parse_eq_error_iff (document : Toml.entries text = .ok entries) {error : FormatError} :
    parse text = .error error ↔
      ∃ o, FirstOffence entries o ∧
        error = .misfit (.ofSpan text o.span o.misfit.message) := by
  have rejected : ∀ o, ofEntries entries = .error o ↔ FirstOffence entries o :=
    fun _ => foldlM_enter_eq_error_iff
  simp only [parse_of_entries document, ← rejected]
  cases ofEntries entries with
  | error o => simp [Except.mapError, eq_comm]
  | ok config => simp [Except.mapError]

/-- A document names no entry twice. It is accepted exactly when each of its entries sets something,
and then has two entries at most, each setting has the value of its entry, and any document that
says the same in another order gives the same. It is rejected exactly for its first entry that
offends, with a remark on what is wrong with that one. -/
theorem parse_of_document (document : Toml.entries text = .ok entries) :
    (entries.map Toml.Entry.name).Nodup ∧
      ((∃ config, parse text = .ok config) ↔ ∀ e ∈ entries, Fits e) ∧
      (∀ config, parse text = .ok config →
        entries.length ≤ 2 ∧ Holds config entries ∧
          ∀ text' entries', Toml.entries text' = .ok entries' →
            (entries'.map content).Perm (entries.map content) → parse text' = .ok config) ∧
      ∀ error, parse text = .error error ↔
        ∃ o, FirstOffence entries o ∧
          error = .misfit (.ofSpan text o.span o.misfit.message) := by
  have distinct := Toml.nodup_names_of_entries document
  refine ⟨distinct, exists_parse_eq_ok_iff document, ?_, fun error => parse_eq_error_iff document⟩
  intro config accepted
  have fits := (exists_parse_eq_ok_iff document).mp ⟨config, accepted⟩
  have holds := holds_of_parse document accepted
  refine ⟨length_le_two distinct fits, holds, ?_⟩
  intro text' entries' document' perm
  obtain ⟨config', accepted'⟩ :=
    (exists_parse_eq_ok_iff document').mpr (forall_fits_of_perm perm fits)
  have holds' := (holds_of_parse document' accepted').of_perm perm
  rw [accepted', holds'.unique holds]

/-- A document that says the same in another order gives the same. A dotted key makes a map of the
flag, and the document is rejected for it and not for the unknown name after it. -/
theorem parse_of_document_of_reordered :
    ∃ flagLast flagDotted : List Toml.Entry,
      Toml.entries "systemctl = 's'\nignore_masked = true\n" = .ok flagLast ∧
      parse "ignore_masked = true\nsystemctl = \"s\"" = .ok ⟨some true, some "s"⟩ ∧
      Toml.entries "systemctl = 's'\nignore_masked.x = 1\nextra = 2" = .ok flagDotted ∧
      parse "systemctl = 's'\nignore_masked.x = 1\nextra = 2" =
        .error (.misfit (.ofSpan "systemctl = 's'\nignore_masked.x = 1\nextra = 2" ⟨29, 16⟩
          "invalid type: map, expected a boolean")) := by
  let program : Toml.Entry := ⟨"systemctl", ⟨45, 36⟩, .string "s", some ⟨33, 30⟩⟩
  let flag : Toml.Entry := ⟨"ignore_masked", ⟨29, 16⟩, .map, none⟩
  let extra : Toml.Entry := ⟨"extra", ⟨9, 4⟩, .integer 2, some ⟨1, 0⟩⟩
  have flagLast : Toml.entries "systemctl = 's'\nignore_masked = true\n" =
      .ok [⟨"systemctl", ⟨37, 28⟩, .string "s", some ⟨25, 22⟩⟩,
        ⟨"ignore_masked", ⟨21, 8⟩, .boolean true, some ⟨5, 1⟩⟩] := by decide +kernel
  have flagFirst : Toml.entries "ignore_masked = true\nsystemctl = \"s\"" =
      .ok [⟨"ignore_masked", ⟨36, 23⟩, .boolean true, some ⟨20, 16⟩⟩,
        ⟨"systemctl", ⟨15, 6⟩, .string "s", some ⟨3, 0⟩⟩] := by decide +kernel
  have flagDotted : Toml.entries "systemctl = 's'\nignore_masked.x = 1\nextra = 2" =
      .ok [program, flag, extra] := by decide +kernel
  have first : FirstOffence [program, flag, extra] ⟨⟨29, 16⟩, .wrongType .map "a boolean"⟩ :=
    ⟨[program], flag, [extra], rfl, by simpa using Fits.program rfl rfl, .flag rfl nofun⟩
  obtain ⟨-, -, accepted, -⟩ := parse_of_document flagLast
  obtain ⟨-, -, -, rejected⟩ := parse_of_document flagDotted
  refine ⟨_, _, flagLast, ?_, flagDotted, (rejected _).mpr ⟨_, first, rfl⟩⟩
  have same : parse "systemctl = 's'\nignore_masked = true\n" = .ok ⟨some true, some "s"⟩ := by
    decide +kernel
  exact (accepted _ same).2.2 _ _ flagFirst (.swap _ _ _)

end UnitHealth.FileConfig
