import UnitHealth.Proofs.Text.Utf8

/-!
# Lossy readings

Octets that are no text can still be read with a loss. Where a character is encoded, it is read.
Where none is, the faulty part is the longest one that begins the encoding of some character, or a
single octet when not even that begins one, and U+FFFD stands for the whole part.

The rule speaks of encodings and of nothing that the decoder keeps. The main statement is that the
lossy reading of octets is what the rule gives, and that it gives nothing else. So an open sequence
is given up exactly at the first octet that no character admits there.
-/

namespace UnitHealth.Text

namespace Utf8

/-- Octets with which the encoding of some character begins. -/
def Begins (octets : Octets) : Prop :=
  ∃ c : Char, octets <+: String.utf8EncodeChar c

/-- A part of some octets, given what follows it, that no character accounts for. -/
structure Faulty (part rest : Octets) : Prop where
  ne_nil : part ≠ []
  /-- No character is encoded here. -/
  no_char : ∀ c : Char, ¬ String.utf8EncodeChar c <+: part ++ rest
  begins : part.length = 1 ∨ Begins part
  /-- No longer part begins an encoding. -/
  longest : ∀ octet more, rest = octet :: more → ¬ Begins (part ++ [octet])

/-- The characters that octets are read as, with U+FFFD for each faulty part. -/
inductive Lossy : Octets → List Char → Prop where
  | nil : Lossy [] []
  | char (c : Char) {rest : Octets} {cs : List Char} (others : Lossy rest cs) :
      Lossy (String.utf8EncodeChar c ++ rest) (c :: cs)
  | part {part rest : Octets} {cs : List Char} (faulty : Faulty part rest)
      (others : Lossy rest cs) : Lossy (part ++ rest) ('\uFFFD' :: cs)

/-! ## The rule leaves no choice -/

theorem Begins.of_prefix {a b : Octets} (h : Begins b) (part : a <+: b) : Begins a := by
  obtain ⟨c, encoding⟩ := h
  exact ⟨c, part.trans encoding⟩

/-- No encoding is the beginning of another. -/
theorem eq_of_utf8EncodeChar_append {c d : Char} {a b : Octets}
    (h : String.utf8EncodeChar c ++ a = String.utf8EncodeChar d ++ b) : c = d ∧ a = b := by
  have read := congrArg pieces h
  rw [pieces_utf8EncodeChar, pieces_utf8EncodeChar] at read
  obtain rfl := Option.some.inj (List.cons.inj read).1
  exact ⟨rfl, List.append_cancel_left h⟩

theorem utf8EncodeChar_ne_nil (c : Char) : String.utf8EncodeChar c ≠ [] := by
  intro none
  have read := pieces_utf8EncodeChar c []
  rw [none] at read
  cases read

namespace Faulty

variable {part part' rest rest' : Octets}

/-- Of two faulty parts of the same octets neither is longer. -/
theorem eq_nil_of_append {x : Octets} (h : Faulty part rest) (h' : Faulty (part ++ x) rest')
    (split : rest = x ++ rest') : x = [] := by
  cases x with
  | nil => rfl
  | cons octet x =>
      have longer : Begins (part ++ octet :: x) := by
        refine h'.begins.resolve_left fun one => h.ne_nil (List.length_eq_zero_iff.mp ?_)
        simp only [List.length_append, List.length_cons] at one
        omega
      exact absurd (longer.of_prefix ⟨x, by simp⟩) (h.longest octet (x ++ rest') split)

theorem unique (h : Faulty part rest) (h' : Faulty part' rest')
    (same : part ++ rest = part' ++ rest') : part = part' ∧ rest = rest' := by
  obtain ⟨x, rfl, split⟩ | ⟨x, rfl, split⟩ := List.append_eq_append_iff.mp same
  · obtain rfl := h.eq_nil_of_append h' split
    exact ⟨by simp, by simpa using split⟩
  · obtain rfl := h'.eq_nil_of_append h split
    exact ⟨by simp, by simpa using split.symm⟩

end Faulty

theorem Lossy.unique {octets octets' : Octets} {cs cs' : List Char} (h : Lossy octets cs)
    (h' : Lossy octets' cs') (same : octets = octets') : cs = cs' := by
  induction h generalizing octets' cs' with
  | nil =>
      cases h' with
      | nil => rfl
      | char c others =>
          exact absurd (List.append_eq_nil_iff.mp same.symm).1 (utf8EncodeChar_ne_nil c)
      | part faulty others => exact absurd (List.append_eq_nil_iff.mp same.symm).1 faulty.ne_nil
  | @char c rest cs others ih =>
      cases h' with
      | nil => exact absurd (List.append_eq_nil_iff.mp same).1 (utf8EncodeChar_ne_nil c)
      | char d others' =>
          obtain ⟨rfl, rest_eq⟩ := eq_of_utf8EncodeChar_append same
          rw [ih others' rest_eq]
      | part faulty others' => exact absurd ⟨rest, same⟩ (faulty.no_char c)
  | @part part rest cs faulty others ih =>
      cases h' with
      | nil => exact absurd (List.append_eq_nil_iff.mp same).1 faulty.ne_nil
      | char d others' => exact absurd ⟨_, same.symm⟩ (faulty.no_char d)
      | part faulty' others' =>
          obtain ⟨-, rest_eq⟩ := faulty.unique faulty' same
          rw [ih others' rest_eq]

/-! ## The decoder keeps the rule -/

/-- The first octet of an encoding is the only one, or it opens a sequence that the character
fits. -/
theorem lead_cases {c : Char} {octet : UInt8} {more : Octets}
    (h : String.utf8EncodeChar c = octet :: more) :
    octet < 0x80 ∨ ∃ p, Pending.ofLead octet = some p ∧ p.Fits c.toNat := by
  obtain single | ⟨k, width⟩ := lt_or_exists_width c
  · rw [utf8EncodeChar_of_lt single] at h
    obtain ⟨rfl, -⟩ := List.cons.inj h
    left
    rw [UInt8.lt_iff_toNat_lt, UInt8.toNat_ofNat']
    simp
    omega
  · rw [utf8EncodeChar_of_width width] at h
    obtain ⟨rfl, -⟩ := List.cons.inj h
    obtain ⟨p, lead, -, fits⟩ := Pending.exists_ofLead width
    exact .inr ⟨p, lead, fits⟩

/-- The octets begin the encodings of exactly those characters that fit the open sequence, and
there is one. -/
structure Opens (octets : Octets) (p : Pending) : Prop where
  ne_nil : octets ≠ []
  began : Began octets p
  low_le_high : p.low.toNat ≤ p.high.toNat
  fits : ∀ c : Char, octets <+: String.utf8EncodeChar c → p.Fits c.toNat

namespace Opens

variable {octets : Octets} {p : Pending} {octet : UInt8}

theorem begins (h : Opens octets p) : Begins octets := by
  have low_ge := h.began.low_ge
  have high_le := h.began.high_le
  have order := h.low_le_high
  obtain ⟨k, hk⟩ : ∃ k, p.missing = k + 1 := ⟨p.missing - 1, by have := h.began.missing_pos; omega⟩
  obtain ⟨n, hn⟩ : ∃ n, n = (p.bits * 64 + (p.low.toNat - 0x80)) * 64 ^ k := ⟨_, rfl⟩
  have whole : n / 64 ^ k = p.bits * 64 + (p.low.toNat - 0x80) := by
    rw [hn, Nat.mul_div_cancel _ (Nat.pow_pos (by decide))]
  have fits : p.Fits n := by
    refine ⟨?_, ?_, ?_⟩
    · rw [hk, Nat.pow_succ, ← Nat.div_div_eq_div_mul, whole]
      omega
    · rw [hk, Nat.add_sub_cancel, whole]
      omega
    · rw [hk, Nat.add_sub_cancel, whole]
      omega
  have same : (Char.ofNat n).toNat = n := by
    rw [Char.ofNat, dif_pos (h.began.valid n fits)]
    rfl
  exact ⟨Char.ofNat n, _, (h.began.encode (Char.ofNat n) (by rwa [same])).symm⟩

theorem ofLead (lead : Pending.ofLead octet = some p) : Opens [octet] p := by
  refine ⟨List.cons_ne_nil _ _, Pending.began_of_ofLead lead, ?_, ?_⟩
  · unfold Pending.ofLead at lead
    split_ifs at lead
    all_goals
      obtain rfl := Option.some.inj lead
      simp
  · rintro c ⟨more, encoding⟩
    obtain ⟨large, -⟩ := Pending.width_of_ofLead lead
    obtain small | ⟨p', lead', fits⟩ := lead_cases encoding.symm
    · have low : octet.toNat < 0x80 := by simpa [UInt8.lt_iff_toNat_lt] using small
      have mark : 0x80 ≤ leadMark p.missing := by
        rw [leadMark.eq_def]
        split <;> simp
      omega
    · obtain rfl := Option.some.inj (lead.symm.trans lead')
      exact fits

/-- An encoding that begins with the octets goes on with the last octets that its character asks
for. -/
theorem exists_encode_eq {c : Char} (h : Opens octets p)
    (part : octets <+: String.utf8EncodeChar c) :
    ∃ k, p.missing = k + 1 ∧ p.Fits c.toNat ∧ String.utf8EncodeChar c =
      octets ++ UInt8.ofNat (c.toNat / 64 ^ k % 64 + 0x80) :: tail k c.toNat := by
  have fits := h.fits c part
  obtain ⟨k, hk⟩ : ∃ k, p.missing = k + 1 := ⟨p.missing - 1, by have := h.began.missing_pos; omega⟩
  refine ⟨k, hk, fits, ?_⟩
  rw [h.began.encode c fits, hk, tail]

theorem exists_next {c : Char} (h : Opens octets p)
    (encoding : octets ++ [octet] <+: String.utf8EncodeChar c) :
    ∃ k, p.missing = k + 1 ∧ p.Fits c.toNat ∧
      octet = UInt8.ofNat (c.toNat / 64 ^ k % 64 + 0x80) := by
  obtain ⟨k, hk, fits, whole⟩ := h.exists_encode_eq ((List.prefix_append _ _).trans encoding)
  rw [whole] at encoding
  exact ⟨k, hk, fits, by simpa using encoding⟩

theorem accepts_of_next {c : Char} (h : Opens octets p)
    (encoding : octets ++ [octet] <+: String.utf8EncodeChar c) : p.accepts octet = true := by
  obtain ⟨k, hk, fits, rfl⟩ := h.exists_next encoding
  rw [Pending.accepts_iff, toNat_tailOctet]
  simpa [hk] using And.intro fits.low fits.high

theorem step (h : Opens octets p) (accepted : p.accepts octet = true) (more : 1 < p.missing) :
    Opens (octets ++ [octet]) ⟨p.bitsWith octet, p.missing - 1, 0x80, 0xbf⟩ := by
  refine ⟨by simp, h.began.step accepted more, by simp, ?_⟩
  intro c encoding
  obtain ⟨k, hk, fits, rfl⟩ := h.exists_next encoding
  have lead : c.toNat / 64 ^ (k + 1) = p.bits := hk ▸ fits.bits
  rw [Nat.pow_succ, ← Nat.div_div_eq_div_mul] at lead
  refine ⟨?_, ?_, ?_⟩
  · simp only [hk, Nat.add_sub_cancel, Pending.bitsWith, toNat_tailOctet]
    omega
  · simp
  · simp
    omega

theorem faulty {rest : Octets} (h : Opens octets p)
    (stuck : ∀ octet more, rest = octet :: more → p.accepts octet = false) :
    Faulty octets rest := by
  have refused : ∀ octet more, rest = octet :: more → ¬ Begins (octets ++ [octet]) := by
    rintro octet more split ⟨c, encoding⟩
    have accepted := h.accepts_of_next encoding
    rw [stuck octet more split] at accepted
    cases accepted
  refine ⟨h.ne_nil, ?_, .inr h.begins, refused⟩
  intro c encoding
  obtain inside | beyond :=
    List.prefix_or_prefix_of_prefix encoding (List.prefix_append octets rest)
  · -- The octets begin an encoding and are not the whole of it.
    obtain ⟨d, part⟩ := h.begins
    obtain ⟨x, longer⟩ := inside.trans part
    obtain ⟨rfl, -⟩ := eq_of_utf8EncodeChar_append (longer.trans (List.append_nil _).symm)
    obtain ⟨k, -, -, whole⟩ := h.exists_encode_eq part
    have length := inside.length_le
    rw [whole, List.length_append, List.length_cons] at length
    omega
  · obtain ⟨k, -, -, whole⟩ := h.exists_encode_eq beyond
    rw [whole, List.prefix_append_right_inj] at encoding
    obtain ⟨others, split⟩ := encoding
    exact refused _ _ split.symm ⟨c, tail k c.toNat, by simp [whole]⟩

end Opens

/-- A single octet that begins no encoding is a faulty part. -/
theorem faulty_of_ofLead_eq_none {octet : UInt8} (several : ¬ octet < 0x80)
    (lead : Pending.ofLead octet = none) (rest : Octets) : Faulty [octet] rest := by
  have refused : ∀ c more, String.utf8EncodeChar c ≠ octet :: more := by
    intro c more encoding
    obtain single | ⟨p, opened, -⟩ := lead_cases encoding
    · exact several single
    · rw [lead] at opened
      cases opened
  refine ⟨List.cons_ne_nil _ _, ?_, .inl rfl, ?_⟩
  · rintro c ⟨more, encoding⟩
    obtain ⟨first, others, whole⟩ := List.exists_cons_of_ne_nil (utf8EncodeChar_ne_nil c)
    rw [whole] at encoding
    obtain ⟨rfl, -⟩ := List.cons.inj encoding
    exact refused c others whole
  · rintro next more - ⟨c, more', encoding⟩
    exact refused c _ encoding.symm

/-- The octets of which a state knows. -/
def Tracks : Octets → Option Pending → Prop
  | octets, none => octets = []
  | octets, some p => Opens octets p

/-- The characters of pieces, with U+FFFD for each mark. -/
def replaced (pieces : List (Option Char)) : List Char :=
  pieces.map fun piece => piece.getD '\uFFFD'

/-- From a state that knows of some octets, the decoder reads these and what follows by the rule. -/
theorem lossy_piecesFrom {known octets : Octets} {state : Option Pending}
    (tracks : Tracks known state) :
    Lossy (known ++ octets) (replaced (piecesFrom state octets)) := by
  induction octets generalizing known state with
  | nil =>
      cases state with
      | none =>
          obtain rfl : known = [] := tracks
          exact .nil
      | some p =>
          have opens : Opens known p := tracks
          exact .part (opens.faulty nofun) .nil
  | cons octet rest ih =>
      have begun : Tracks [] none := rfl
      have fresh : Lossy (octet :: rest) (replaced (pieces (octet :: rest))) := by
        rw [pieces, piecesFrom_cons, step, start]
        split_ifs with single
        · have read := Lossy.char (Char.ofNat octet.toNat) (ih begun)
          rwa [utf8EncodeChar_ofNat single] at read
        · cases lead : Pending.ofLead octet with
          | none => exact .part (faulty_of_ofLead_eq_none single lead rest) (ih begun)
          | some p =>
              have tracks : Tracks [octet] (some p) := Opens.ofLead lead
              exact ih tracks
      cases state with
      | none =>
          obtain rfl : known = [] := tracks
          exact fresh
      | some p =>
          have opens : Opens known p := tracks
          rw [piecesFrom_cons, step]
          split_ifs with accepted last
          · have read := Lossy.char (Char.ofNat (p.bitsWith octet)) (ih begun)
            rwa [opens.began.finish accepted last, List.append_assoc, List.singleton_append] at read
          · have tracks : Tracks (known ++ [octet]) (some _) := opens.step accepted (by omega)
            simpa using ih tracks
          · have stuck : ∀ o more, octet :: rest = o :: more → p.accepts o = false := by
              rintro o more split
              obtain ⟨rfl, -⟩ := List.cons.inj split
              exact Bool.eq_false_iff.mpr accepted
            exact .part (opens.faulty stuck) fresh

end Utf8

/-- The lossy reading of octets is the one that the rule gives. -/
theorem lossy_iff {octets : Octets} {text : String} :
    Utf8.Lossy octets text.toList ↔ decodeLossy octets = text := by
  have begun : Utf8.Tracks [] none := rfl
  have read : Utf8.Lossy octets (decodeLossy octets).toList := by
    rw [decodeLossy, String.toList_ofList]
    exact Utf8.lossy_piecesFrom begun
  constructor
  · intro h
    exact String.toList_injective (read.unique h rfl)
  · rintro rfl
    exact read

/-! ## Octets after an encoded text -/

theorem Utf8.pieces_encode_append (text : String) (octets : Octets) :
    Utf8.pieces (encode text ++ octets) = text.toList.map some ++ Utf8.pieces octets := by
  rw [encode]
  induction text.toList with
  | nil => rfl
  | cons c cs ih =>
      rw [List.flatMap_cons, List.append_assoc, pieces_utf8EncodeChar, ih, List.map_cons,
        List.cons_append]

/-- An encoded text in front of some octets is kept by their lossy reading. -/
theorem decodeLossy_encode_append (text : String) (octets : Octets) :
    decodeLossy (encode text ++ octets) = text ++ decodeLossy octets := by
  apply String.toList_injective
  simp [decodeLossy, Utf8.pieces_encode_append, Function.comp_def]

/-- Octets that are no text make none of a text in front of them. -/
theorem decode?_encode_append_eq_none {octets : Octets} (bad : ∀ text, octets ≠ encode text)
    (text : String) : decode? (encode text ++ octets) = none := by
  rw [decode?_eq_none_iff]
  intro whole same
  have read := Utf8.pieces_eq_map_some_iff.mpr same
  rw [Utf8.pieces_encode_append] at read
  obtain ⟨front, back, -, -, others⟩ := List.map_eq_append_iff.mp read.symm
  refine bad (String.ofList back) ?_
  rw [encode, String.toList_ofList]
  exact Utf8.pieces_eq_map_some_iff.mp others.symm

end UnitHealth.Text
