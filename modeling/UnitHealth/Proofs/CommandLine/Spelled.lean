import UnitHealth.Proofs.CommandLine.Mentions

/-!
# Spellings

What a command line gives can be spelled in many ways: by long names or by letters, with switches
bundled in one argument, with the file of the configuration at the end of a bundle, and with a value
in the same argument or in the next. Only a value that stands alone may not begin with a hyphen, and
only one that follows its letter directly may not begin with an equals sign.

However it is spelled and in whatever order, it is read back. The reading is followed one spelling
at a time. After each, an option may still wait with its value, so what is known of the progress is
the command line that it comes to once that option is settled.
-/

namespace UnitHealth.CommandLine

/-! ## Ways to spell -/

/-- A switch that has a letter. -/
inductive Flag where
  | ignoreMasked
  | verbose

namespace Flag

def given : Flag → Given
  | ignoreMasked => .ignoreMasked
  | verbose => .verbose

def switch : Flag → Switch
  | ignoreMasked => .ignoreMasked
  | verbose => .verbose

def letter : Flag → Char
  | ignoreMasked => 'm'
  | verbose => 'v'

def longName : Flag → String
  | ignoreMasked => "ignoremasked"
  | verbose => "verbose"

theorem named_given (flag : Flag) : flag.given.named = .switch flag.switch := by
  cases flag <;> rfl

end Flag

/-- One argument of the letters of some switches and what follows them. -/
def bundled (flags : List Flag) (tail : String) : String :=
  "-" ++ String.ofList (flags.map Flag.letter) ++ tail

def Valued.longName : Valued → String
  | .config => "config"
  | .systemctl => "systemctl"

/-- Arguments that spell one thing, or what is bundled in one argument. -/
inductive Spelling : List Given → List String → Prop where
  /-- A switch by its long name. -/
  | long (flag : Flag) : Spelling [flag.given] ["--" ++ flag.longName]
  /-- Switches alone. -/
  | bundle {flags : List Flag} (nonempty : flags ≠ []) :
      Spelling (flags.map Flag.given) [bundled flags ""]
  /-- Switches, if any, and a configuration file in the next argument. -/
  | bundleNext (flags : List Flag) {path : String} (free : path.toList.head? ≠ some '-') :
      Spelling (flags.map Flag.given ++ [.config path]) [bundled flags "c", path]
  /-- Switches, if any, and a configuration file in the same argument. -/
  | bundleAttached (flags : List Flag) {path : String} (plain : path.toList.head? ≠ some '=') :
      Spelling (flags.map Flag.given ++ [.config path]) [bundled flags ("c" ++ path)]
  /-- Switches, if any, and a configuration file in the same argument after an equals sign. -/
  | bundleEquals (flags : List Flag) (path : String) :
      Spelling (flags.map Flag.given ++ [.config path]) [bundled flags ("c=" ++ path)]
  /-- An option by its long name, and its value in the next argument. -/
  | longNext (v : Valued) {value : String} (free : value.toList.head? ≠ some '-') :
      Spelling [.ofValued v value] ["--" ++ v.longName, value]
  /-- An option by its long name, and its value in the same argument after an equals sign. -/
  | longEquals (v : Valued) (value : String) :
      Spelling [.ofValued v value] ["--" ++ v.longName ++ "=" ++ value]

/-- Arguments that spell what is given, part by part. -/
inductive Spelled : List Given → List String → Prop where
  | nil : Spelled [] []
  | append {gs gs' : List Given} {arguments arguments' : List String}
      (first : Spelling gs arguments) (others : Spelled gs' arguments') :
      Spelled (gs ++ gs') (arguments ++ arguments')

/-! ## Texts and mentions -/

section Texts

theorem toList_long (name : String) : ("--" ++ name).toList = '-' :: '-' :: name.toList := by
  simp

theorem toList_long_equals (name value : String) :
    ("--" ++ name ++ "=" ++ value).toList = '-' :: '-' :: (name.toList ++ '=' :: value.toList) := by
  simp

theorem toList_bundled (flags : List Flag) (tail : String) :
    (bundled flags tail).toList = '-' :: (flags.map Flag.letter ++ tail.toList) := by
  simp [bundled]

variable {flags : List Flag} {tail : String}

/-- What stands after the hyphen of a bundle begins with a letter. -/
theorem exists_letter (begun : flags ≠ [] ∨ tail.toList.head? = some 'c') :
    ∃ c cs, c ≠ '-' ∧ flags.map Flag.letter ++ tail.toList = c :: cs := by
  cases flags with
  | nil =>
      obtain ⟨cs, text⟩ : ∃ cs, tail.toList = 'c' :: cs := by
        simpa [List.head?_eq_some_iff] using begun
      exact ⟨'c', cs, by decide, text⟩
  | cons flag flags =>
      refine ⟨flag.letter, flags.map Flag.letter ++ tail.toList, ?_, rfl⟩
      cases flag <;> decide

theorem letterMentions_append (flags : List Flag) (cs : List Char) :
    letterMentions (flags.map Flag.letter ++ cs) =
      (flags.map Flag.given).map Given.named ++ letterMentions cs := by
  induction flags with
  | nil => rfl
  | cons flag flags ih =>
      have letter : letterMentions (flag.letter :: (flags.map Flag.letter ++ cs)) =
          .switch flag.switch :: letterMentions (flags.map Flag.letter ++ cs) := by
        cases flag <;> rfl
      rw [List.map_cons, List.cons_append, letter, ih, ← flag.named_given]
      rfl

theorem mentions_bundled (begun : flags ≠ [] ∨ tail.toList.head? = some 'c') :
    mentions (bundled flags tail) =
      (flags.map Flag.given).map Given.named ++ letterMentions tail.toList := by
  obtain ⟨c, cs, ne, letters⟩ := exists_letter begun
  have text : (bundled flags tail).toList = '-' :: c :: cs := by rw [toList_bundled, letters]
  rw [mentions_cluster ne text, ← letters, letterMentions_append]

theorem Spelling.mentioned {gs : List Given} {arguments : List String}
    (spelling : Spelling gs arguments) : arguments.flatMap mentions = gs.map Given.named := by
  cases spelling with
  | long flag => cases flag <;> decide +kernel
  | bundle nonempty => simp [mentions_bundled (.inl nonempty), letterMentions]
  | @bundleNext flags path free =>
      have bundle : mentions (bundled flags "c") = _ := mentions_bundled (.inr rfl)
      simp [bundle, mentions_text (.inr free), letterMentions, Named.ofLetter?, Given.named]
  | @bundleAttached flags path plain =>
      have bundle : mentions (bundled flags ("c" ++ path)) = _ := mentions_bundled (.inr (by simp))
      simp [bundle, letterMentions, Named.ofLetter?, Given.named]
  | bundleEquals flags path =>
      have bundle : mentions (bundled flags ("c=" ++ path)) = _ := mentions_bundled (.inr (by simp))
      simp [bundle, letterMentions, Named.ofLetter?, Given.named]
  | longNext v free =>
      rw [List.flatMap_cons, mentions_long (toList_long _)]
      simp only [List.flatMap_cons, mentions_text (.inr free)]
      cases v <;> rfl
  | longEquals v value =>
      rw [List.flatMap_cons, mentions_long (toList_long_equals _ _)]
      cases v <;> rfl

end Texts

/-! ## Adding what is fresh -/

/-- The command line that gives some things more. -/
def addAll (line : CommandLine) (gs : List Given) : CommandLine :=
  gs.foldl add line

/-- Things that can be given besides a command line, each for the first time. -/
def Fresh (line : CommandLine) (gs : List Given) : Prop :=
  (gs.map Given.named ++ line.names).Nodup

section Fresh

variable {line : CommandLine} {g : Given} {gs gs' : List Given}

theorem Fresh.uncons (fresh : Fresh line (g :: gs)) :
    g.named ∉ line.names ∧ Fresh (line.add g) gs := by
  have first : g.named ∉ line.names := by
    intro mem
    exact (List.nodup_cons.mp fresh).1 (List.mem_append_right _ mem)
  refine ⟨first, ?_⟩
  have added := (perm_names_add first).append_left (gs.map Given.named)
  exact (added.trans List.perm_middle).nodup_iff.mpr fresh

theorem Fresh.unappend (fresh : Fresh line (gs ++ gs')) :
    Fresh line gs ∧ Fresh (line.addAll gs) gs' := by
  induction gs generalizing line with
  | nil => exact ⟨line.nodup_names, fresh⟩
  | cons g gs ih =>
      obtain ⟨-, later⟩ := Fresh.uncons fresh
      rw [Fresh, List.map_append, List.append_assoc] at fresh
      refine ⟨?_, (ih later).2⟩
      exact fresh.sublist ((List.sublist_append_right _ _).append_left _)

theorem addAll_concat : line.addAll (gs ++ [g]) = (line.addAll gs).add g :=
  List.foldl_concat add line g gs

theorem Fresh.unconcat (fresh : Fresh line (gs ++ [g])) :
    Fresh line gs ∧ g.named ∉ (line.addAll gs).names :=
  ⟨fresh.unappend.1, fresh.unappend.2.uncons.1⟩

theorem perm_givens_addAll (fresh : Fresh line gs) :
    (line.addAll gs).givens.Perm (gs ++ line.givens) := by
  induction gs generalizing line with
  | nil => exact .refl _
  | cons g gs ih =>
      obtain ⟨first, others⟩ := fresh.uncons
      have added := (perm_givens_add first).append_left gs
      exact (ih others).trans (added.trans List.perm_middle)

end Fresh

/-! ## Readings -/

namespace Progress

variable {p q : Progress} {line : CommandLine}

/-- A progress that comes to a command line when the option that waits is settled. -/
def Stands (p : Progress) (line : CommandLine) : Prop :=
  p.settled = .ok ⟨line, none, false⟩

theorem stands_settled (line : CommandLine) : Stands ⟨line, none, false⟩ line := rfl

theorem Stands.unclosed (h : p.Stands line) : p.closed = false := by
  rw [Stands, settled] at h
  cases waiting : p.waiting with
  | none =>
      rw [waiting] at h
      exact congrArg closed (Except.ok.inj h)
  | some w =>
      rw [waiting] at h
      obtain ⟨options, -, same⟩ := Steps.map_eq_ok_iff.mp h
      exact congrArg closed same

theorem Stands.takeSwitch {s : Switch} {g : Given} (h : p.Stands line) (named : g.named = .switch s)
    (fresh : g.named ∉ line.names) : p.takeSwitch s = .ok ⟨line.add g, none, false⟩ := by
  rw [Progress.takeSwitch, h]
  exact turnOn_eq_ok_iff.mpr ⟨g, named, fresh, rfl⟩

variable {v : Valued} {value : String}

theorem Stands.takeValue (h : p.Stands line) (fresh : .valued v ∉ line.names)
    (admitted : (Given.ofValued v value).Admitted) :
    p.takeValue v value = .ok ⟨line.add (.ofValued v value), none, false⟩ := by
  have added := settle_eq_ok_iff.mpr ⟨value, rfl, fresh, admitted, rfl⟩
  rw [Progress.takeValue, h]
  change (settle line v (some value) >>= _) = _
  rw [added]
  rfl

theorem Stands.await (h : p.Stands line) (v : Valued) :
    p.await v = .ok ⟨line, some ⟨v, none⟩, false⟩ := by
  rw [Progress.await, h]
  rfl

/-- An option that waits stands for the command line that has it. -/
theorem stands_waiting (fresh : .valued v ∉ line.names)
    (admitted : (Given.ofValued v value).Admitted) :
    Stands ⟨line, some ⟨v, some value⟩, false⟩ (line.add (.ofValued v value)) := by
  have added := settle_eq_ok_iff.mpr ⟨value, rfl, fresh, admitted, rfl⟩
  change (settle line v (some value)).map _ = _
  rw [added]
  rfl

/-- The argument after an option that has no value yet is its value. -/
theorem take_value (free : value.toList.head? ≠ some '-') :
    take ⟨line, some ⟨v, none⟩, false⟩ value = .ok ⟨line, some ⟨v, some value⟩, false⟩ := by
  rw [take_text rfl (.inr free)]
  rfl

/-- The letters of switches are taken one by one. -/
theorem Stands.takeCluster {flags : List Flag} (h : p.Stands line)
    (fresh : Fresh line (flags.map Flag.given)) (cs : List Char) :
    ∃ q : Progress, q.Stands (line.addAll (flags.map Flag.given)) ∧
      p.takeCluster (flags.map Flag.letter ++ cs) = q.takeCluster cs := by
  induction flags generalizing p line with
  | nil => exact ⟨p, h, rfl⟩
  | cons flag flags ih =>
      obtain ⟨first, others⟩ := fresh.uncons
      obtain ⟨q, stands, rest⟩ := ih (stands_settled (line.add flag.given)) others
      refine ⟨q, stands, ?_⟩
      have letter : p.takeCluster (flag.letter :: (flags.map Flag.letter ++ cs)) =
          p.takeSwitch flag.switch >>= fun r => r.takeCluster (flags.map Flag.letter ++ cs) := by
        cases flag <;> rfl
      rw [List.map_cons, List.cons_append, letter, h.takeSwitch flag.named_given first]
      exact rest

theorem Stands.take_bundled {flags : List Flag} (tail : String) (h : p.Stands line)
    (begun : flags ≠ [] ∨ tail.toList.head? = some 'c')
    (fresh : Fresh line (flags.map Flag.given)) :
    ∃ q : Progress, q.Stands (line.addAll (flags.map Flag.given)) ∧
      p.take (bundled flags tail) = q.takeCluster tail.toList := by
  obtain ⟨c, cs, ne, letters⟩ := exists_letter begun
  have text : (bundled flags tail).toList = '-' :: c :: cs := by rw [toList_bundled, letters]
  rw [take_cluster h.unclosed ne text, ← letters]
  exact h.takeCluster fresh _

theorem clusterValue_of_plain {cs : List Char} (plain : cs.head? ≠ some '=') :
    clusterValue cs = String.ofList cs := by
  cases cs with
  | nil => rfl
  | cons c cs =>
      have ne : c ≠ '=' := by simpa using plain
      simp [clusterValue, ne]

/-- The letter of an option ends a bundle, and what follows it in the same argument is its value. -/
theorem Stands.take_bundled_config {flags : List Flag} {tail : String} {cs : List Char}
    (h : p.Stands line) (text : tail.toList = 'c' :: cs) (ne : cs ≠ [])
    (fresh : Fresh line (flags.map Flag.given ++ [.config (clusterValue cs)]))
    (admitted : (Given.config (clusterValue cs)).Admitted) :
    p.take (bundled flags tail) =
      .ok ⟨line.addAll (flags.map Flag.given ++ [.config (clusterValue cs)]), none, false⟩ := by
  obtain ⟨switches, last⟩ := fresh.unconcat
  obtain ⟨q, stands, taken⟩ := h.take_bundled tail (.inr (by rw [text]; rfl)) switches
  have value : q.takeCluster ('c' :: cs) = q.takeValue .config (clusterValue cs) := by
    simp [Progress.takeCluster, Named.ofLetter?, ne]
  rw [taken, text, value, addAll_concat]
  exact stands.takeValue last admitted

theorem takeLong_switch (flag : Flag) :
    p.takeLong flag.longName.toList = p.takeSwitch flag.switch := by
  cases flag <;> rfl

theorem takeLong_valued (v : Valued) : p.takeLong v.longName.toList = p.await v := by
  cases v <;> rfl

theorem takeLong_valued_equals (v : Valued) (cs : List Char) :
    p.takeLong (v.longName.toList ++ '=' :: cs) = p.takeValue v (String.ofList cs) := by
  cases v <;> rfl

end Progress

open Progress

variable {p : Progress} {line : CommandLine} {gs : List Given} {arguments : List String}

/-- One spelling of what is fresh is taken, and it is added. -/
theorem Spelling.taken (spelling : Spelling gs arguments) (h : p.Stands line)
    (fresh : Fresh line gs) (admitted : ∀ g ∈ gs, g.Admitted) :
    ∃ q : Progress, arguments.foldlM take p = .ok q ∧ q.Stands (line.addAll gs) := by
  cases spelling with
  | long flag =>
      have ne : flag.longName.toList ≠ [] := by cases flag <;> exact List.cons_ne_nil _ _
      rw [List.foldlM_cons, take_long h.unclosed ne (toList_long _), takeLong_switch,
        h.takeSwitch flag.named_given fresh.uncons.1]
      exact ⟨_, rfl, stands_settled _⟩
  | bundle nonempty =>
      obtain ⟨q, stands, taken⟩ := h.take_bundled "" (.inl nonempty) fresh
      rw [List.foldlM_cons, taken]
      exact ⟨q, rfl, stands⟩
  | @bundleNext flags path free =>
      obtain ⟨switches, last⟩ := fresh.unconcat
      obtain ⟨q, stands, taken⟩ := h.take_bundled "c" (.inr rfl) switches
      have waiting : q.takeCluster "c".toList = _ := stands.await .config
      rw [List.foldlM_cons, taken, waiting]
      refine ⟨_, congrArg (· >>= pure) (take_value free), ?_⟩
      rw [addAll_concat]
      exact stands_waiting last (admitted (.config path) (by simp))
  | @bundleAttached flags path plain =>
      have text : ("c" ++ path).toList = 'c' :: path.toList := by simp
      have value : clusterValue path.toList = path := by
        rw [clusterValue_of_plain plain, String.ofList_toList]
      have ne : path.toList ≠ [] := by
        intro empty
        exact admitted (.config path) (by simp) (congrArg _ (String.toList_eq_nil_iff.mp empty))
      rw [← value] at fresh admitted
      have taken := h.take_bundled_config text ne fresh (admitted _ (by simp))
      rw [List.foldlM_cons, taken, value]
      exact ⟨_, rfl, stands_settled _⟩
  | bundleEquals flags path =>
      have text : ("c=" ++ path).toList = 'c' :: '=' :: path.toList := by simp
      have value : clusterValue ('=' :: path.toList) = path := String.ofList_toList
      rw [← value] at fresh admitted
      have taken := h.take_bundled_config text (List.cons_ne_nil _ _) fresh (admitted _ (by simp))
      rw [List.foldlM_cons, taken, value]
      exact ⟨_, rfl, stands_settled _⟩
  | longNext v free =>
      have ne : v.longName.toList ≠ [] := by cases v <;> exact List.cons_ne_nil _ _
      have first := fresh.uncons.1
      rw [Given.named_ofValued] at first
      rw [List.foldlM_cons, take_long h.unclosed ne (toList_long _), takeLong_valued, h.await]
      refine ⟨_, congrArg (· >>= pure) (take_value free), ?_⟩
      exact stands_waiting first (admitted _ (by simp))
  | longEquals v value =>
      have first := fresh.uncons.1
      rw [Given.named_ofValued] at first
      have text := toList_long_equals v.longName value
      rw [List.foldlM_cons, take_long h.unclosed (by simp) text, takeLong_valued_equals,
        String.ofList_toList, h.takeValue first (admitted _ (by simp))]
      exact ⟨_, rfl, stands_settled _⟩

/-- Spellings of what is fresh are taken one after the other. -/
theorem Spelled.taken (spelled : Spelled gs arguments) (h : p.Stands line)
    (fresh : Fresh line gs) (admitted : ∀ g ∈ gs, g.Admitted) :
    ∃ q : Progress, arguments.foldlM take p = .ok q ∧ q.Stands (line.addAll gs) := by
  induction spelled generalizing p line with
  | nil => exact ⟨p, rfl, h⟩
  | append first others ih =>
      rw [List.forall_mem_append] at admitted
      obtain ⟨fresh, later⟩ := fresh.unappend
      obtain ⟨r, begun, stands⟩ := first.taken h fresh admitted.1
      obtain ⟨q, taken, done⟩ := ih stands later admitted.2
      refine ⟨q, ?_, ?_⟩
      · rw [List.foldlM_append, begun]
        exact taken
      · rw [addAll, List.foldl_append]
        exact done

theorem Spelled.mentioned (spelled : Spelled gs arguments) :
    arguments.flatMap mentions = gs.map Given.named := by
  induction spelled with
  | nil => rfl
  | append first others ih => rw [List.flatMap_append, List.map_append, first.mentioned, ih]

/-- A command line is read back from whatever spells it, in whatever order. -/
theorem Spelled.parse_eq_ok (spelled : Spelled gs arguments) (perm : gs.Perm line.givens)
    (named : line.config ≠ some "") : parse arguments = .ok line := by
  have fresh : Fresh empty gs := by
    rw [Fresh, names_empty, List.append_nil]
    exact (perm.map Given.named).nodup_iff.mpr line.nodup_names
  have admitted : ∀ g ∈ gs, g.Admitted := by
    rintro g mem rfl
    exact named (mem_givens.mp (perm.mem_iff.mp mem))
  obtain ⟨p, taken, done⟩ := spelled.taken (stands_settled empty) fresh admitted
  have all : (empty.addAll gs).givens.Perm gs := by
    simpa [givens, empty] using perm_givens_addAll fresh
  rw [eq_of_perm_givens (all.trans perm)] at done
  change (arguments.foldlM take ⟨empty, none, false⟩ >>= _) = _
  rw [taken]
  change (p.settled >>= _) = _
  rw [done]
  rfl

/-- What is spelled is read back, so that no value is taken for an option and no option for a value.
Arguments that mention a switch or an option twice are not accepted, and spellings mention just
what they spell. -/
theorem spellings_are_read_back :
    (∀ (line : CommandLine) (gs : List Given) (arguments : List String),
      line.config ≠ some "" → gs.Perm line.givens → Spelled gs arguments →
        parse arguments = .ok line) ∧
      (∀ (gs : List Given) (arguments : List String),
        Spelled gs arguments → arguments.flatMap mentions = gs.map Given.named) ∧
      ∀ (arguments : List String) (n : Named),
        List.Duplicate n (arguments.flatMap mentions) → ∃ stop, parse arguments = .error stop :=
  ⟨fun _ _ _ named perm spelled => spelled.parse_eq_ok perm named, fun _ _ => Spelled.mentioned,
    fun _ _ => exists_parse_eq_error⟩

/-- Values that look like switches and options are read back, and a switch in two bundles is refused
with a value between them. -/
theorem spellings_are_read_back_of_lookalikes :
    parse ["-vmc=-m=v", "--systemctl=--config"] =
        .ok ⟨true, some "-m=v", some "--config", true⟩ ∧
      ∃ stop, parse ["-vmc", "m", "-v"] = .error stop := by
  obtain ⟨read, -, refused⟩ := spellings_are_read_back
  have bundle := Spelling.bundleEquals [.verbose, .ignoreMasked] "-m=v"
  have long := Spelling.longEquals .systemctl "--config"
  have spelled := Spelled.append bundle (.append long .nil)
  refine ⟨read _ _ _ (by decide) ?_ spelled, refused _ (.switch .verbose) ?_⟩
  · decide +kernel
  · decide +kernel

end UnitHealth.CommandLine
