import UnitHealth.Config.Load
import UnitHealth.Manager.Error
import UnitHealth.Proofs.Text.Words

/-!
# Folding a fault

The verdict on a fault tells the whole chain on one line: the texts are joined by a colon and a
space, and what comes of it is folded. No text is trimmed before, so a colon meets whatever stands
before it. It belongs to the word that the text ends with, and is a word of its own where the text
ends with a blank or is empty. The space after it keeps it apart from the next text in any case.

So the words of a verdict are known from the words of the texts and the ends of those that a colon
follows, no word is lost, and the verdict is the same for two chains exactly when these words are.
-/

namespace UnitHealth

/-! ## Words of joined texts -/

namespace Text

/-- The characters of a text after its last blank. -/
def lastRun (text : String) : String :=
  String.ofList (text.toList.rtakeWhile fun c => !isBlank c)

/-- The characters of a text up to its last blank. -/
def uptoLastBlank (text : String) : String :=
  String.ofList (text.toList.rdropWhile fun c => !isBlank c)

/-- The words of texts that are joined by a colon and a space. The colon is put after the last run
of the text before it, which may be empty. -/
def chainWords : List String → List String
  | [] => []
  | [text] => words text
  | text :: next :: others =>
    words (uptoLastBlank text) ++ (lastRun text ++ ":") :: chainWords (next :: others)

theorem uptoLastBlank_append_lastRun (text : String) :
    uptoLastBlank text ++ lastRun text = text := by
  rw [← String.toList_inj, String.toList_append, uptoLastBlank, lastRun, String.toList_ofList,
    String.toList_ofList, List.rdropWhile_append_rtakeWhile]

/-- A last run is no word only because it may be empty. With a colon it is one. -/
theorem isWord_lastRun_colon (text : String) : IsWord (lastRun text ++ ":").toList where
  ne_nil := by simp
  not_blank c hc := by
    rw [String.toList_append, List.mem_append] at hc
    obtain hc | hc := hc
    · rw [lastRun, String.toList_ofList] at hc
      simpa using List.mem_rtakeWhile_imp hc
    · obtain rfl : c = ':' := by simpa using hc
      rfl

/-- What stands before the last run ends with a blank, if anything does. -/
theorem words_uptoLastBlank_append {text run : String} (h : IsWord run.toList) :
    words (uptoLastBlank text ++ run) = words (uptoLastBlank text) ++ [run] := by
  rw [words, words, String.toList_append, uptoLastBlank, String.toList_ofList]
  obtain none | ⟨front, last, split⟩ := List.eq_nil_or_concat
    (text.toList.rdropWhile fun c => !isBlank c)
  · rw [none]
    simp [h.wordsOf_eq]
  · have blank : isBlank last = true := by
      have kept := List.rdropWhile_last_not (fun c => !isBlank c) text.toList
      simp only [split] at kept
      simpa using kept
    rw [split, List.concat_eq_append, List.append_assoc, List.singleton_append,
      wordsOf_append_cons blank, wordsOf_append_cons blank, h.wordsOf_eq]
    simp

theorem words_append_colon (text : String) :
    words (text ++ ":") = words (uptoLastBlank text) ++ [lastRun text ++ ":"] := by
  rw [← words_uptoLastBlank_append (isWord_lastRun_colon text), ← String.append_assoc,
    uptoLastBlank_append_lastRun]

/-- The words of joined texts are those of the texts, up to the colons between them. -/
theorem words_intercalate_colon (texts : List String) :
    words (": ".intercalate texts) = chainWords texts := by
  induction texts with
  | nil => rfl
  | cons text others ih =>
      cases others with
      | nil => rw [String.intercalate_singleton, chainWords]
      | cons next others =>
          have colon : text ++ ": " = text ++ ":" ++ " " := by
            rw [String.append_assoc]
            rfl
          rw [String.intercalate_cons_cons, colon, words_append_space, words_append_colon, ih,
            chainWords, List.append_assoc, List.singleton_append]

end Text

/-! ## The chain of an error -/

namespace Fault

/-- A fault under contexts that are added one after the other, so the last is the outermost. -/
def under (contexts : List String) (f : Fault) : Fault :=
  contexts.foldl (fun f context => f.within context) f

theorem chain_under (contexts : List String) (f : Fault) :
    (f.under contexts).chain = contexts.reverse ++ f.chain := by
  induction contexts generalizing f with
  | nil => rfl
  | cons context others ih =>
      change ((f.within context).under others).chain = _
      rw [ih, chain_within, List.reverse_cons, List.append_assoc, List.singleton_append]

/-- Two faults have the same verdict exactly when their joined chains have the same words. -/
theorem verdict_eq_iff {f f' : Fault} :
    f.verdict = f'.verdict ↔ Text.words f.joined = Text.words f'.joined := by
  constructor
  · intro same
    have folded : Text.fold f.joined = Text.fold f'.joined :=
      String.append_right_inj _ |>.mp (Verdict.mk.inj same).2
    rw [← Text.words_fold f.joined, folded, Text.words_fold]
  · intro same
    rw [verdict, verdict, Text.fold, Text.fold, same]

/-- The line of the verdict on a fault has no line feed, whatever the texts of the fault have. -/
theorem newline_notMem_line_verdict (f : Fault) : '\n' ∉ f.verdict.line.toList := by
  have lead : '\n' ∉ "CheckFailedUnits CRITICAL: Check failed to run: ".toList := by decide +kernel
  have told : '\n' ∉ (Text.fold f.joined).toList := by
    intro mem
    have space := (Text.tidy_fold f.joined).eq_space '\n' mem Text.isBlank_newline
    exact absurd space (by decide)
  have line : f.verdict.line =
      "CheckFailedUnits CRITICAL: Check failed to run: " ++ Text.fold f.joined := by
    simp only [verdict, Verdict.line_mk, Status.word, ← String.append_assoc]
    rfl
  rw [line, String.toList_append, List.mem_append]
  exact not_or.mpr ⟨lead, told⟩

end Fault

/-- An error that the check can come to: of the connection, of the enumeration, of the
configuration, or of an output that cannot be read. -/
inductive CheckError where
  | connection (e : ConnectError)
  | enumeration (e : EnumerationError)
  | configuration (e : ConfigError)
  | output (e : MalformedOutput)

namespace CheckError

/-- The wording of an error and those of its causes, each of which explains the one before. -/
def chain : CheckError → List String
  | connection e => e.message :: e.causes
  | enumeration e => e.message :: e.causes
  | configuration e => e.message :: e.causes
  | output e => [e.message]

def fault : CheckError → Fault
  | connection e => e.fault
  | enumeration e => e.fault
  | configuration e => e.fault
  | output e => ⟨e.message, []⟩

theorem chain_fault (e : CheckError) : e.fault.chain = e.chain := by
  cases e <;> rfl

theorem joined_under (e : CheckError) (contexts : List String) :
    (e.fault.under contexts).joined = ": ".intercalate (contexts.reverse ++ e.chain) := by
  rw [Fault.joined, Fault.chain_under, chain_fault]

end CheckError

/-- An error under any contexts is a critical verdict with exit code 2. Its message tells the words
of the chain and nothing else: the contexts from the outermost on, the error and its causes, joined
by a colon and a space, with single spaces between the words. Its line has no line feed. Folding
again changes nothing, and another error has the same verdict exactly when its chain has the same
words. -/
theorem verdict_tells_chain (e : CheckError) (contexts : List String) :
    ∃ told : String,
      (e.fault.under contexts).verdict = ⟨.critical, "Check failed to run: " ++ told⟩ ∧
      (e.fault.under contexts).verdict.exitCode = 2 ∧
      Text.Tidy told.toList ∧ Text.fold told = told ∧
      Text.words told = Text.words (": ".intercalate (contexts.reverse ++ e.chain)) ∧
      Text.words told = Text.chainWords (contexts.reverse ++ e.chain) ∧
      '\n' ∉ (e.fault.under contexts).verdict.line.toList ∧
      ∀ (e' : CheckError) (contexts' : List String),
        (e'.fault.under contexts').verdict = (e.fault.under contexts).verdict ↔
          Text.words (": ".intercalate (contexts'.reverse ++ e'.chain)) =
            Text.words (": ".intercalate (contexts.reverse ++ e.chain)) := by
  refine ⟨Text.fold (e.fault.under contexts).joined, rfl, rfl, Text.tidy_fold _,
    Text.fold_fold _, ?_, ?_, Fault.newline_notMem_line_verdict _, ?_⟩
  · rw [Text.words_fold, CheckError.joined_under]
  · rw [Text.words_fold, CheckError.joined_under, Text.words_intercalate_colon]
  · intro e' contexts'
    rw [Fault.verdict_eq_iff, CheckError.joined_under, CheckError.joined_under]

/-- A context that ends with a blank leaves its colon alone, and an empty one is a colon only. -/
example : (Fault.under ["", "probe\t"] ⟨"no bus\n", ["gone"]⟩).verdict.message =
    "Check failed to run: probe : : no bus : gone" := by decide +kernel

end UnitHealth
