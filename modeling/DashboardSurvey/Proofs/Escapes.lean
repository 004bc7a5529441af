import DashboardSurvey.Json.Decode
import DashboardSurvey.Json.Encode
import Mathlib.Data.Char

/-!
# Strings of JSON text come back

A text is held in characters, some of its code points in two.  In JSON text each code point is
written as it is, with a letter after a backslash, or as one or two escapes of sixteen bits.  Reading
goes the same way back, but for one thing: two escapes that are the halves of a surrogate pair are
read as one code point, also if they were written for two.  This cannot happen in texts of
characters only.

* **`codes_flatMap`**, **`flatMap_charsOfCode_lt`** — the code points of a text are told by its
  characters, which keep their order.
* `Whole` — the texts of characters only.
* `Written` — the four ways in which a code point is written; `written_escapeJson`.
* `Written.readElement` — a code point comes back.
* **`readString_escapeJson`** — a string comes back.
-/

namespace DashboardSurvey

/-! ## Code points -/

lemma toNat_lt (c : Char) : c.toNat < 0x110000 := by
  have hvalid : c.toNat.isValidChar := c.valid
  simp only [Nat.isValidChar] at hvalid
  omega

lemma toNat_ofNat {n : ℕ} (h : n.isValidChar) : (Char.ofNat n).toNat = n := by
  rw [Char.ofNat, dif_pos h]
  rfl

/-- Only the mark and the halves are held after a mark, so all others are characters. -/
lemma isValidChar_of_not_marked {n : ℕ} (hn : n < 0x110000) (h : ¬ isMarked n = true) :
    n.isValidChar ∧ Char.ofNat n ≠ halfMark := by
  simp only [isMarked, Bool.and_eq_true, decide_eq_true_eq, not_and, not_lt] at h
  have hvalid : n.isValidChar := by
    simp only [Nat.isValidChar]
    omega
  refine ⟨hvalid, fun hmark => ?_⟩
  have hcode := congrArg Char.toNat hmark
  rw [toNat_ofNat hvalid] at hcode
  have hmark : halfMark.toNat = 0xd7ff := rfl
  omega

/-- What comes after a mark is a character. -/
lemma toNat_of_marked {n : ℕ} (h : isMarked n = true) :
    (Char.ofNat (n + 0x801)).toNat = n + 0x801 ∧ 0xd7ff ≤ n ∧ n < 0xe000 := by
  simp only [isMarked, Bool.and_eq_true, decide_eq_true_eq] at h
  refine ⟨toNat_ofNat ?_, h⟩
  simp only [Nat.isValidChar]
  omega

/-- **A code point is told by the characters that hold it**, whatever comes after them. -/
lemma codes_append {n : ℕ} (hn : n < 0x110000) (cs : List Char) :
    codes (charsOfCode n ++ cs) = n :: codes cs := by
  by_cases h : isMarked n = true
  · obtain ⟨hcode, hle, hlt⟩ := toNat_of_marked h
    have hstarts : startsMarked halfMark (Char.ofNat (n + 0x801)) = true := by
      simp only [startsMarked, hcode, beq_self_eq_true, Bool.true_and, Bool.and_eq_true,
        decide_eq_true_eq]
      omega
    rw [charsOfCode, if_pos h, List.cons_append, List.singleton_append, codes, if_pos hstarts, hcode,
      Nat.add_sub_cancel]
  · obtain ⟨hvalid, hne⟩ := isValidChar_of_not_marked hn h
    rw [charsOfCode, if_neg h, List.singleton_append]
    cases cs with
    | nil => rw [codes, codes, toNat_ofNat hvalid]
    | cons d cs =>
        rw [codes, if_neg (by simp [startsMarked, hne]), toNat_ofNat hvalid]

/-- **The code points of a text** are told by its characters. -/
theorem codes_flatMap {ns : List ℕ} (hns : ∀ n ∈ ns, n < 0x110000) :
    codes (ns.flatMap charsOfCode) = ns := by
  induction ns with
  | nil => rfl
  | cons n ns ih =>
      rw [List.forall_mem_cons] at hns
      rw [List.flatMap_cons, codes_append hns.1, ih hns.2]

lemma codes_holdChars (cs : List Char) : codes (holdChars cs) = cs.map Char.toNat := by
  have hlt : ∀ n ∈ cs.map Char.toNat, n < 0x110000 := by
    simp only [List.forall_mem_map]
    exact fun c _ => toNat_lt c
  rw [← codes_flatMap hlt, List.flatMap_map]
  rfl

/-- What characters hold is a code point. -/
lemma lt_of_mem_codes {cs : List Char} {n : ℕ} (h : n ∈ codes cs) : n < 0x110000 := by
  fun_induction codes cs with
  | case1 => cases h
  | case2 c =>
      obtain rfl := List.mem_singleton.mp h
      exact toNat_lt c
  | case3 c d rest hstarts ih =>
      rcases List.mem_cons.mp h with hn | h
      · have hlt := toNat_lt d
        omega
      · exact ih h
  | case4 c d rest hstarts ih =>
      rcases List.mem_cons.mp h with rfl | h
      · exact toNat_lt c
      · exact ih h

/-! ## Their order -/

lemma lt_of_toNat_lt {c d : Char} (h : c.toNat < d.toNat) : c < d := h

/-- A code point before another one is held before it. -/
lemma append_lt_append {n m : ℕ} (hm : m < 0x110000) (h : n < m) (cs ds : List Char) :
    charsOfCode n ++ cs < charsOfCode m ++ ds := by
  have hmark : halfMark.toNat = 0xd7ff := rfl
  rw [charsOfCode, charsOfCode]
  by_cases hn' : isMarked n = true
  · obtain ⟨hn, hle, hlt⟩ := toNat_of_marked hn'
    rw [if_pos hn']
    by_cases hm' : isMarked m = true
    · obtain ⟨hm, -, -⟩ := toNat_of_marked hm'
      rw [if_pos hm']
      refine List.cons_lt_cons_iff.mpr (Or.inr ⟨rfl, List.cons_lt_cons_iff.mpr (Or.inl ?_)⟩)
      exact lt_of_toNat_lt (by omega)
    · obtain ⟨hm, -⟩ := isValidChar_of_not_marked hm hm'
      rw [if_neg hm']
      refine List.cons_lt_cons_iff.mpr (Or.inl (lt_of_toNat_lt ?_))
      rw [toNat_ofNat hm, hmark]
      simp only [isMarked, Bool.and_eq_true, decide_eq_true_eq] at hm'
      omega
  · obtain ⟨hn, -⟩ := isValidChar_of_not_marked (Nat.lt_trans h hm) hn'
    rw [if_neg hn']
    by_cases hm' : isMarked m = true
    · rw [if_pos hm']
      refine List.cons_lt_cons_iff.mpr (Or.inl (lt_of_toNat_lt ?_))
      rw [toNat_ofNat hn, hmark]
      simp only [isMarked, Bool.and_eq_true, decide_eq_true_eq] at hn' hm'
      omega
    · obtain ⟨hm, -⟩ := isValidChar_of_not_marked hm hm'
      rw [if_neg hm']
      refine List.cons_lt_cons_iff.mpr (Or.inl (lt_of_toNat_lt ?_))
      rw [toNat_ofNat hn, toNat_ofNat hm]
      exact h

/-- **Texts are in the order of their code points.** -/
theorem flatMap_charsOfCode_lt {ns ms : List ℕ} (hms : ∀ m ∈ ms, m < 0x110000) (h : ns < ms) :
    ns.flatMap charsOfCode < ms.flatMap charsOfCode := by
  induction ns generalizing ms with
  | nil =>
      cases ms with
      | nil => cases h
      | cons m ms =>
          rw [List.flatMap_cons, charsOfCode]
          split_ifs <;> exact List.nil_lt_cons _ _
  | cons n ns ih =>
      cases ms with
      | nil => cases h
      | cons m ms =>
          rw [List.forall_mem_cons] at hms
          rw [List.flatMap_cons, List.flatMap_cons]
          rcases List.cons_lt_cons_iff.mp h with hlt | ⟨rfl, hlt⟩
          · exact append_lt_append hms.1 hlt _ _
          · exact List.append_left_lt (ih hms.2 hlt)

/-! ## Texts of characters -/

/-- All code points of the text are characters. -/
def Whole (s : String) : Prop := ∃ cs, s.toList = holdChars cs

lemma holdChars_heldChars_iff (s : String) : holdChars (heldChars s.toList) = s.toList ↔ Whole s := by
  refine ⟨fun h => ⟨_, h.symm⟩, fun ⟨cs, hcs⟩ => ?_⟩
  have hheld : heldChars (holdChars cs) = cs := by
    rw [heldChars, codes_holdChars, List.map_map]
    exact (List.map_congr_left fun c _ => Char.ofNat_toNat c).trans cs.map_id
  rw [hcs, hheld]

instance (s : String) : Decidable (Whole s) := decidable_of_iff _ (holdChars_heldChars_iff s)

/-! ## Escapes of sixteen bits -/

lemma hexValue?_digitChar : ∀ n < 16, hexValue? (Nat.digitChar n) = some n := by decide

/-- The four digits of a sixteen-bit unit. -/
lemma hexFour?_digitChar {n : ℕ} (h : n < 0x10000) :
    hexFour? (Nat.digitChar (n / 4096 % 16)) (Nat.digitChar (n / 256 % 16))
      (Nat.digitChar (n / 16 % 16)) (Nat.digitChar (n / 1 % 16)) = some n := by
  have hmod : ∀ m : ℕ, m % 16 < 16 := fun m => Nat.mod_lt m (by decide)
  simp only [hexFour?, hexValue?_digitChar _ (hmod _), Option.bind_eq_bind, Option.bind_some,
    Option.pure_def, Option.some.injEq]
  omega

/-- The escape of a unit, in its parts. -/
lemma exists_escapeUnit {n : ℕ} (h : n < 0x10000) : ∃ a b c d,
    escapeUnit n = ['\\', 'u', a, b, c, d] ∧ hexFour? a b c d = some n :=
  ⟨_, _, _, _, rfl, hexFour?_digitChar h⟩

lemma isHighSurrogate_iff {n : ℕ} : isHighSurrogate n = true ↔ 0xd800 ≤ n ∧ n < 0xdc00 := by
  simp only [isHighSurrogate, Bool.and_eq_true, decide_eq_true_eq]

lemma isLowSurrogate_iff {n : ℕ} : isLowSurrogate n = true ↔ 0xdc00 ≤ n ∧ n < 0xe000 := by
  simp only [isLowSurrogate, Bool.and_eq_true, decide_eq_true_eq]

lemma lt_of_isHighSurrogate {n : ℕ} (h : isHighSurrogate n = true) : n < 0x10000 :=
  Nat.lt_trans (isHighSurrogate_iff.mp h).2 (by decide)

lemma lt_of_isLowSurrogate {n : ℕ} (h : isLowSurrogate n = true) : n < 0x10000 :=
  Nat.lt_trans (isLowSurrogate_iff.mp h).2 (by decide)

/-! ## How a code point is written -/

/-- A character of ASCII but zero stands for itself, and nothing else is held as it. -/
lemma charsOfCode_ascii {n : ℕ} {c : Char} (h : Char.ofNat n = c) (hne : c ≠ '\x00')
    (hascii : c.toNat < 128) : charsOfCode n = [c] := by
  by_cases hvalid : n.isValidChar
  · have hcode := congrArg Char.toNat h
    rw [toNat_ofNat hvalid] at hcode
    rw [charsOfCode, if_neg, h]
    simp only [isMarked, Bool.and_eq_true, decide_eq_true_eq]
    omega
  · rw [Char.ofNat, dif_neg hvalid] at h
    exact absurd h.symm hne

/-- How a code point is written. -/
inductive Written (n : ℕ) : List Char → Prop
  | letter {e c : Char} (hcode : charsOfCode n = [c]) (hletter : escapeLetter? e = some c)
      (hne : e ≠ 'u') (hascii : e.toNat < 127) : Written n ['\\', e]
  | plain {c : Char} (hcode : charsOfCode n = [c]) (hquote : c ≠ '\x22') (hslash : c ≠ '\\')
      (hspace : ¬ c < ' ') (hascii : c.toNat < 127) : Written n [c]
  | unit (hcode : n < 0x10000) : Written n (escapeUnit n)
  | pair {high low : ℕ} (hhigh : isHighSurrogate high = true) (hlow : isLowSurrogate low = true)
      (hjoin : joinSurrogates high low = n) : Written n (escapeUnit high ++ escapeUnit low)

/-- A character with an escape of one letter. -/
lemma written_letter {n : ℕ} {e c : Char} (h : Char.ofNat n = c) (hletter : escapeLetter? e = some c)
    (hascii : c ≠ '\x00' ∧ c.toNat < 128 ∧ e ≠ 'u' ∧ e.toNat < 127) : Written n ['\\', e] :=
  .letter (charsOfCode_ascii h hascii.1 hascii.2.1) hletter hascii.2.2.1 hascii.2.2.2

lemma written_escapeJson {n : ℕ} (hn : n < 0x110000) : Written n (escapeJson n) := by
  unfold escapeJson
  dsimp only
  by_cases hquote : Char.ofNat n = '\x22'
  · rw [if_pos hquote]; exact written_letter hquote rfl (by decide)
  by_cases hslash : Char.ofNat n = '\\'
  · rw [if_neg hquote, if_pos hslash]; exact written_letter hslash rfl (by decide)
  rw [if_neg hquote, if_neg hslash]
  by_cases hline : Char.ofNat n = '\n'
  · rw [if_pos hline]; exact written_letter hline rfl (by decide)
  by_cases hr : Char.ofNat n = '\r'
  · rw [if_neg hline, if_pos hr]; exact written_letter hr rfl (by decide)
  by_cases ht : Char.ofNat n = '\t'
  · rw [if_neg hline, if_neg hr, if_pos ht]; exact written_letter ht rfl (by decide)
  rw [if_neg hline, if_neg hr, if_neg ht]
  by_cases hf : Char.ofNat n = '\x0c'
  · rw [if_pos hf]; exact written_letter hf rfl (by decide)
  by_cases hb : Char.ofNat n = '\x08'
  · rw [if_neg hf, if_pos hb]; exact written_letter hb rfl (by decide)
  rw [if_neg hf, if_neg hb]
  by_cases hplain : 32 ≤ n ∧ n < 127
  · have hcode : (Char.ofNat n).toNat = n := toNat_ofNat (Or.inl (by omega))
    rw [if_pos hplain]
    have hself : charsOfCode n = [Char.ofNat n] := by
      rw [charsOfCode, if_neg]
      simp only [isMarked, Bool.and_eq_true, decide_eq_true_eq]
      omega
    refine .plain hself hquote hslash (fun h => ?_) (by omega)
    have hlt : (Char.ofNat n).toNat < 32 := h
    omega
  rw [if_neg hplain]
  by_cases hcode : n < 0x10000
  · rw [if_pos hcode]
    exact .unit hcode
  · rw [if_neg hcode]
    refine .pair (isHighSurrogate_iff.mpr ?_) (isLowSurrogate_iff.mpr ?_) ?_
    · omega
    · omega
    · unfold joinSurrogates
      omega

/-! ## Reading a code point -/

/-- An escape is read alone unless it is the first half of a pair. -/
lemma readCodeEscape_alone {n : ℕ} {a b c d : Char} (hvalue : hexFour? a b c d = some n)
    (hhigh : isHighSurrogate n = false) {cs : List Char} (hne : cs ≠ []) :
    readCodeEscape (a :: b :: c :: d :: cs) = .ok (n, cs) := by
  obtain ⟨next, rest, rfl⟩ := List.exists_cons_of_ne_nil hne
  simp only [readCodeEscape, hvalue, hhigh, Bool.false_eq_true, if_false]
  split <;> rfl

/-- Two escapes that are a pair are read as one code point. -/
lemma readCodeEscape_pair {high low : ℕ} {a b c d a' b' c' d' : Char}
    (hhigh : hexFour? a b c d = some high) (hpair : isHighSurrogate high = true)
    (hlow : hexFour? a' b' c' d' = some low) (hpair' : isLowSurrogate low = true)
    {cs : List Char} (hne : cs ≠ []) :
    readCodeEscape (a :: b :: c :: d :: '\\' :: 'u' :: a' :: b' :: c' :: d' :: cs)
      = .ok (joinSurrogates high low, cs) := by
  obtain ⟨after, rest, rfl⟩ := List.exists_cons_of_ne_nil hne
  simp only [readCodeEscape, hhigh, hpair, hlow, hpair', if_true]

lemma readElement_code (start : List Char) {cs rest : List Char} {n : ℕ}
    (h : readCodeEscape cs = .ok (n, rest)) :
    readElement start ('\\' :: 'u' :: cs) = .ok (some (charsOfCode n), rest) := by
  simp [readElement, h]

/-- **A code point comes back**, with what follows it, if it is a character. -/
lemma Written.readElement {n : ℕ} {w : List Char} (hw : Written n w) (hn : n.isValidChar)
    (start : List Char) {cs : List Char} (hne : cs ≠ []) :
    readElement start (w ++ cs) = .ok (some (charsOfCode n), cs) := by
  cases hw with
  | letter hcode hletter hne' => simp [DashboardSurvey.readElement, hcode, hletter, hne']
  | plain hcode hquote hslash hspace hascii =>
      simp [DashboardSurvey.readElement, hcode, hquote, hslash, hspace]
  | unit hcode =>
      obtain ⟨a, b, c', d, heq, hvalue⟩ := exists_escapeUnit hcode
      rw [heq]
      have hhigh : isHighSurrogate n = false := by
        rw [← Bool.not_eq_true, isHighSurrogate_iff]
        simp only [Nat.isValidChar] at hn
        omega
      exact readElement_code start (readCodeEscape_alone hvalue hhigh hne)
  | pair hhigh hlow hjoin =>
      obtain ⟨a, b, c', d, heq, hvalue⟩ := exists_escapeUnit (lt_of_isHighSurrogate hhigh)
      obtain ⟨a', b', c'', d', heq', hvalue'⟩ := exists_escapeUnit (lt_of_isLowSurrogate hlow)
      rw [heq, heq', ← hjoin]
      exact readElement_code start (readCodeEscape_pair hvalue hhigh hvalue' hlow hne)

/-! ## Reading a string -/

lemma readString_flatMap {ns : List ℕ} (hns : ∀ n ∈ ns, n.isValidChar) (start rest : List Char) :
    readString start (ns.flatMap escapeJson ++ '\x22' :: rest)
      = .ok (ns.flatMap charsOfCode, rest) := by
  induction ns with
  | nil =>
      rw [readString.eq_def]
      rfl
  | cons n ns ih =>
      rw [List.forall_mem_cons] at hns
      have hlt : n < 0x110000 := by
        have hvalid := hns.1
        simp only [Nat.isValidChar] at hvalid
        omega
      have hmore : ns.flatMap escapeJson ++ '\x22' :: rest ≠ [] := by simp
      have hread := (written_escapeJson hlt).readElement hns.1 start hmore
      rw [List.flatMap_cons, List.append_assoc, readString.eq_def]
      split
      · rename_i hr
        cases hread.symm.trans hr
      · rename_i hr
        cases hread.symm.trans hr
      · rename_i ds rest' hr
        obtain ⟨rfl, rfl⟩ : charsOfCode n = ds ∧ _ = rest' := by simpa using hread.symm.trans hr
        rw [ih hns.2]
        rfl

/-- **A string comes back**, if it is a text of characters. -/
theorem readString_escapeJson {s : String} (h : Whole s) (rest : List Char) :
    ∃ body, jsonString s ++ rest = '\x22' :: body
      ∧ readString body body = .ok (s.toList, rest) := by
  obtain ⟨cs, hcs⟩ := h
  have hvalid : ∀ n ∈ cs.map Char.toNat, n.isValidChar :=
    List.forall_mem_map.mpr fun c _ => c.valid
  have hheld : (cs.map Char.toNat).flatMap charsOfCode = holdChars cs := List.flatMap_map _ _ _
  refine ⟨(codes s.toList).flatMap escapeJson ++ '\x22' :: rest, by simp [jsonString], ?_⟩
  rw [hcs, codes_holdChars, ← hheld]
  exact readString_flatMap hvalid _ rest

end DashboardSurvey
