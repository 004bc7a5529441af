import DashboardSurvey.Proofs.Answers
import DashboardSurvey.Proofs.Range
import DashboardSurvey.Proofs.Standard

/-!
# What is written is standard

The text of a value is JSON by the standard if all of its doubles are finite, and only then: the name
of one that is not stands outside the strings, where a standard text has no such name.

* `shortestDigits_ne_zero` — a double that is not zero is written with digits that are not zero.
* `Standard.exists_numeral_intChars`, `Standard.exists_numeral_text` — numbers are numerals.
* `Standard.phrase_render`, `names_render` — values of finite doubles and others.
* **`Standard.render_iff`**, `bare_render_iff` — which values have a standard text, and which have a
  text that names a double which is not finite.
-/

namespace DashboardSurvey

/-! ## Digits that are not zero -/

lemma Interval.digits_ne_zero {i : Interval} {d : Decimal} (hlow : 0 < i.low)
    (h : i.holds d = true) : d.digits ≠ 0 := by
  intro hzero
  have hratio : d.ratio.1 = 0 := by
    unfold Decimal.ratio
    split_ifs <;> simp [hzero]
  have hpos : 0 < i.low * (Binary64.scaleTwo 1 i.exponent).1 * d.ratio.2 :=
    Nat.mul_pos (Nat.mul_pos hlow (Binary64.scaleTwo_pos _).1) d.ratio_pos
  unfold holds at h
  simp only [hratio, Nat.zero_mul] at h
  split_ifs at h
  · have := of_decide_eq_true h
    omega
  · have := of_decide_eq_true h
    omega

lemma nearestWith_ne_zero {i : Interval} {num den : ℕ} {order : Int} {count : ℕ} {d : Decimal}
    (hlow : 0 < i.low) (h : nearestWith i num den order count = some d) : d.digits ≠ 0 := by
  unfold nearestWith at h
  dsimp only at h
  split at h
  · cases h
  · rename_i hbelow _
    exact Option.some.inj h ▸ i.digits_ne_zero hlow hbelow
  · rename_i _ habove
    exact Option.some.inj h ▸ i.digits_ne_zero hlow habove
  · rename_i hbelow _
    have hfloor := i.digits_ne_zero hlow hbelow
    obtain rfl := Option.some.inj h
    dsimp only at hfloor ⊢
    have hround := (Binary64.roundQuotient_bounds _ _).1.trans' (Nat.pos_of_ne_zero hfloor)
    omega

lemma Decimal.strip_ne_zero (fuel : ℕ) {d : Decimal} (h : d.digits ≠ 0) :
    (strip fuel d).digits ≠ 0 := by
  induction fuel generalizing d with
  | zero => exact h
  | succ fuel ih =>
      rw [strip]
      split_ifs with hten
      · exact ih (show d.digits / 10 ≠ 0 by omega)
      · exact h

/-- The digits of a double that is not zero are not zero. -/
theorem shortestDigits_ne_zero {x : Finite} (hx : x.mantissa ≠ 0) :
    (shortestDigits x).digits ≠ 0 := by
  have hlow : 0 < (Interval.of x).low := by
    unfold Interval.of
    dsimp only
    split_ifs <;> omega
  have hnum : (Binary64.ratio x).1 ≠ 0 := by
    unfold Binary64.ratio Binary64.scaleTwo
    split_ifs
    · exact (Nat.mul_pos (Nat.pos_of_ne_zero hx) (Nat.two_pow_pos _)).ne'
    · exact hx
  unfold shortestDigits
  dsimp only
  refine Decimal.strip_ne_zero 400 ?_
  cases hfound : (List.range 17).findSome? fun n => nearestWith (Interval.of x) (Binary64.ratio x).1
      (Binary64.ratio x).2 (decimalOrder (Binary64.ratio x).1 (Binary64.ratio x).2) (n + 1) with
  | none => exact hnum
  | some d =>
      obtain ⟨n, -, hn⟩ := List.exists_of_findSome?_eq_some hfound
      exact nearestWith_ne_zero hlow hn

namespace Standard

/-! ## Numbers -/

/-- The digits of a number other than zero do not start with a zero. -/
lemma head?_toDigits {n : ℕ} (hn : n ≠ 0) : (Nat.toDigits 10 n).head? ≠ some '0' := by
  intro h
  obtain ⟨c, cs, hcs, hzero⟩ := exists_toDigits n
  rw [hcs, List.head?_cons, Option.some.injEq] at h
  have hvalue := digitsValue_toDigits n
  rw [hcs, hzero h, h] at hvalue
  exact hn hvalue.symm

lemma toDigits_ne_nil (n : ℕ) : Nat.toDigits 10 n ≠ [] :=
  List.ne_nil_of_length_pos Nat.length_toDigits_pos

lemma isDigit_replicate {n : ℕ} {c : Char} (h : c ∈ List.replicate n '0') : c.isDigit = true := by
  rw [List.eq_of_mem_replicate h]
  rfl

lemma isDigit_zero : ∀ c ∈ ['0'], c.isDigit = true := List.forall_mem_singleton.mpr rfl

/-- How a sign is written. -/
abbrev signChars (negative : Bool) : List Char := if negative then ['-'] else []

/-- **A whole number** is a numeral. -/
lemma exists_numeral_intChars (n : Int) : ∃ m : Numeral, m.chars = intChars n := by
  refine ⟨⟨decide (n < 0), Nat.toDigits 10 n.natAbs, [], none, toDigits_ne_nil _,
    fun c hc => isDigit_toDigits hc, fun hhead => ?_, List.forall_mem_nil _⟩, ?_⟩
  · rcases eq_or_ne n.natAbs 0 with hzero | hne
    · rw [hzero]
      rfl
    · exact absurd hhead (head?_toDigits hne)
  · by_cases hn : n < 0 <;>
      simp [Numeral.chars, Numeral.fractionChars, Numeral.exponentChars, intChars, hn]

section Layout

variable {ds : List Char} (hds : ∀ c ∈ ds, c.isDigit = true) (hne : ds ≠ [])
include hds hne

lemma exists_numeral_plain (hzero : ds.head? ≠ some '0') (negative : Bool) (point : Int) :
    ∃ n : Numeral, n.chars = signChars negative ++ (Layout.plain ds point).toList := by
  unfold Layout.plain
  split_ifs with hpoint
  · refine ⟨⟨negative, ['0'], List.replicate (-point).toNat '0' ++ ds, none, List.cons_ne_nil _ _,
      isDigit_zero, fun _ => rfl, ?_⟩, ?_⟩
    · exact List.forall_mem_append.mpr ⟨fun c => isDigit_replicate, hds⟩
    · simp [Numeral.chars, Numeral.fractionChars, Numeral.exponentChars, hne]
  · dsimp only
    obtain ⟨p, hp⟩ : ∃ p, point.toNat = p + 1 := Nat.exists_eq_succ_of_ne_zero (by omega)
    obtain ⟨c, cs, rfl⟩ := List.exists_cons_of_ne_nil hne
    rw [hp, List.take_succ_cons, List.drop_succ_cons]
    have hwhole : ∀ d ∈ c :: (cs.take p ++ List.replicate (p + 1 - (c :: cs).length) '0'),
        d.isDigit = true := by
      rw [List.forall_mem_cons] at hds ⊢
      refine ⟨hds.1, List.forall_mem_append.mpr ⟨fun d hd => ?_, fun d => isDigit_replicate⟩⟩
      exact hds.2 d (List.mem_of_mem_take hd)
    have hrest : ∀ d ∈ cs.drop p, d.isDigit = true := fun d hd =>
      hds d (List.mem_cons_of_mem c (List.mem_of_mem_drop hd))
    refine ⟨⟨negative, _, if (cs.drop p).isEmpty then ['0'] else cs.drop p, none,
      List.cons_ne_nil _ _, hwhole, fun h => absurd h hzero, ?_⟩, ?_⟩
    · split_ifs
      · exact isDigit_zero
      · exact hrest
    · split_ifs with hempty
      · simp [Numeral.chars, Numeral.fractionChars, Numeral.exponentChars]
      · have hfraction : cs.drop p ≠ [] := by simpa using hempty
        simp [Numeral.chars, Numeral.fractionChars, Numeral.exponentChars, hfraction]

lemma exists_numeral_scientific (l : Layout) (negative : Bool) (power : Int) :
    ∃ n : Numeral, n.chars = signChars negative ++ (l.scientific ds power).toList := by
  obtain ⟨c, cs, rfl⟩ := List.exists_cons_of_ne_nil hne
  rw [List.forall_mem_cons] at hds
  have hdigits : ∀ d ∈ List.replicate (l.exponentWidth - power.natAbs.repr.length) '0'
      ++ Nat.toDigits 10 power.natAbs, d.isDigit = true :=
    List.forall_mem_append.mpr ⟨fun d => isDigit_replicate, fun d => isDigit_toDigits⟩
  refine ⟨⟨negative, [c], cs, some ⟨'e', if power < 0 then ['-'] else ['+'], _, .inl rfl, ?_, ?_,
    hdigits⟩, List.cons_ne_nil _ _, by simpa using hds.1, fun h => ?_, hds.2⟩, ?_⟩
  · split_ifs <;> simp
  · simp
  · rw [List.head?_cons, Option.some.injEq] at h
    rw [h]
  · unfold Layout.scientific
    by_cases hpower : power < 0 <;> cases cs <;>
      simp [Numeral.chars, Numeral.fractionChars, Numeral.exponentChars, Exponent.chars, padZeros,
        hpower]

end Layout

/-- **A finite double** is a numeral. -/
lemma exists_numeral_text (x : Finite) :
    ∃ n : Numeral, n.chars = (jsonLayout.text (.finite x)).toList := by
  have htext : (jsonLayout.text (.finite x)).toList
      = signChars x.negative ++ (jsonLayout.finite x).toList := by
    rw [Layout.text, String.toList_append]
    cases x.negative <;> rfl
  rw [htext, Layout.finite]
  have hds : ∀ c ∈ Nat.toDigits 10 (shortestDigits x).digits, c.isDigit = true :=
    fun c => isDigit_toDigits
  dsimp only
  split_ifs with hzero
  · exact ⟨⟨x.negative, ['0'], ['0'], none, List.cons_ne_nil _ _, isDigit_zero, fun _ => rfl,
      isDigit_zero⟩, by simp [Numeral.chars, Numeral.fractionChars, Numeral.exponentChars]⟩
  · exact exists_numeral_plain hds (toDigits_ne_nil _) (head?_toDigits (shortestDigits_ne_zero hzero))
      x.negative _
  · exact exists_numeral_scientific hds (toDigits_ne_nil _) jsonLayout x.negative _

/-! ## Strings -/

lemma quote_escapeUnit (n : ℕ) {cs rest : List Char} (h : Quote cs rest) :
    Quote (escapeUnit n ++ cs) rest := by
  have hdigit : ∀ n < 16, Nat.digitChar n ∈ hexChars := by decide
  have hmod : ∀ m, Nat.digitChar (m % 16) ∈ hexChars := fun m =>
    hdigit _ (Nat.mod_lt m (by decide))
  exact .code (by simp [hmod]) h

lemma mem_letters {c e : Char} (h : escapeLetter? e = some c) : e ∈ letters := by
  unfold escapeLetter? at h
  simp only [letters, List.mem_cons]
  split_ifs at h <;> tauto

/-- A code point may be put before what else stands in a string. -/
lemma quote_written {n : ℕ} {w cs rest : List Char} (hw : Written n w) (h : Quote cs rest) :
    Quote (w ++ cs) rest := by
  cases hw with
  | letter _ hletter _ _ => exact .letter (mem_letters hletter) h
  | plain _ hquote hslash hspace _ => exact .plain (Char.not_lt.mp hspace) hquote hslash h
  | unit _ => exact quote_escapeUnit _ h
  | pair _ _ _ =>
      rw [List.append_assoc]
      exact quote_escapeUnit _ (quote_escapeUnit _ h)

/-- **A text** is written as a string. -/
lemma exists_quote_jsonString (s : String) (rest : List Char) :
    ∃ cs, jsonString s ++ rest = '\x22' :: cs ∧ Quote cs rest := by
  refine ⟨(codes s.toList).flatMap escapeJson ++ '\x22' :: rest, by simp [jsonString], ?_⟩
  have hcodes : ∀ n ∈ codes s.toList, n < 0x110000 := fun n hn => lt_of_mem_codes hn
  generalize codes s.toList = ns at hcodes
  induction ns with
  | nil => exact .close
  | cons n ns ih =>
      rw [List.forall_mem_cons] at hcodes
      rw [List.flatMap_cons, List.append_assoc]
      exact quote_written (written_escapeJson hcodes.1) (ih hcodes.2)

/-! ## Values -/

lemma gap_append {gap : List Char} (hgap : Blank gap) (rest : List Char) :
    Gap (gap ++ rest) rest := by
  induction gap with
  | nil => exact .none
  | cons c gap ih =>
      rw [Blank, List.forall_mem_cons] at hgap
      exact .blank hgap.1 (ih hgap.2)

section Values

variable {style : Style} (hstyle : style.Spaced)

lemma phrase_scalarChars {s : Scalar} (hs : s.IsFinite) (rest : List Char) :
    Phrase (fun _ => True) .value (scalarChars s ++ rest) rest := by
  cases s with
  | null => exact .null
  | bool b =>
      cases b with
      | true => exact .yes
      | false => exact .no
  | int n =>
      obtain ⟨m, hm⟩ := exists_numeral_intChars n
      rw [scalarChars, ← hm]
      exact .number m trivial
  | num x =>
      cases x with
      | finite x =>
          obtain ⟨m, hm⟩ := exists_numeral_text x
          rw [scalarChars, ← hm]
          exact .number m trivial
      | infinite _ => cases hs
      | undefined => cases hs
  | str s =>
      obtain ⟨cs, hcs, hquote⟩ := exists_quote_jsonString s rest
      exact hcs ▸ .text hquote

include hstyle

/-- The items of a list, if their texts follow the grammar. -/
lemma phrase_items {v : Json} {vs : List Json} {depth : ℕ} {gap : List Char} (hgap : Blank gap)
    (h : ∀ x ∈ v :: vs, ∀ rest, Phrase (fun _ => True) .value (x.render style depth ++ rest) rest)
    (rest : List Char) :
    Phrase (fun _ => True) .items
      (v.render style depth ++ (Json.renderItems style depth vs ++ (gap ++ ']' :: rest))) rest := by
  induction vs generalizing v with
  | nil =>
      rw [List.forall_mem_singleton] at h
      rw [Json.renderItems, List.nil_append]
      exact .lastItem (h _) (gap_append hgap _)
  | cons w ws ih =>
      rw [List.forall_mem_cons] at h
      simp only [Json.renderItems, List.append_assoc, List.cons_append]
      exact .item (h.1 _) .none (gap_append (hstyle.comma depth) _) (ih h.2)

/-- The members of an object, if the texts of their values follow the grammar. -/
lemma phrase_members {m : String × Json} {ms : List (String × Json)} {depth : ℕ} {gap : List Char}
    (hgap : Blank gap)
    (h : ∀ m' ∈ m :: ms, ∀ rest,
      Phrase (fun _ => True) .value (m'.2.render style depth ++ rest) rest) (rest : List Char) :
    Phrase (fun _ => True) .members (jsonString m.1 ++ ':' :: ' ' :: (m.2.render style depth
      ++ (Json.renderMembers style depth ms ++ (gap ++ '\x7d' :: rest)))) rest := by
  have hblank : ∀ cs, Gap (' ' :: cs) cs := fun cs => .blank rfl .none
  induction ms generalizing m with
  | nil =>
      rw [List.forall_mem_singleton] at h
      obtain ⟨cs, hcs, hquote⟩ := exists_quote_jsonString m.1 (':' :: ' ' ::
        (m.2.render style depth ++ (Json.renderMembers style depth [] ++ (gap ++ '\x7d' :: rest))))
      rw [hcs]
      exact .lastMember hquote .none (hblank _) (h _) (gap_append hgap _)
  | cons w ws ih =>
      rw [List.forall_mem_cons] at h
      obtain ⟨cs, hcs, hquote⟩ := exists_quote_jsonString m.1 (':' :: ' ' ::
        (m.2.render style depth ++ (Json.renderMembers style depth (w :: ws)
          ++ (gap ++ '\x7d' :: rest))))
      rw [hcs]
      refine .member hquote .none (hblank _) (h.1 _) ?_ (gap_append (hstyle.comma depth) _) (ih h.2)
      simp only [Json.renderMembers, List.append_assoc, List.cons_append, List.nil_append]
      exact .none

/-- **The text of a value** whose doubles are finite follows the grammar. -/
lemma phrase_render {v : Json} (hv : v.Each Scalar.IsFinite) (depth : ℕ) (rest : List Char) :
    Phrase (fun _ => True) .value (v.render style depth ++ rest) rest := by
  induction v using Json.valueInduction generalizing depth rest with
  | scalar s =>
      rw [Json.render]
      exact phrase_scalarChars (Json.each_scalar_iff.mp hv) rest
  | list items ih =>
      have hitems := Json.each_list_iff.mp hv
      cases items with
      | nil =>
          rw [Json.render]
          exact .emptyList .none
      | cons v vs =>
          rw [render_list_append]
          exact .list (gap_append (hstyle.bracket (depth + 1)) _)
            (phrase_items hstyle (hstyle.bracket depth)
              (fun x hx rest => ih x hx (hitems x hx) (depth + 1) rest) rest)
  | object members ih =>
      have hmembers := Json.each_object_iff.mp hv
      cases members with
      | nil =>
          rw [Json.render]
          exact .emptyObject .none
      | cons m ms =>
          rw [render_object_append]
          exact .object (gap_append (hstyle.bracket (depth + 1)) _)
            (phrase_members hstyle (hstyle.bracket depth)
              (fun m' hm' rest => ih m' hm' (hmembers m' hm').2 (depth + 1) rest) rest)

end Values

end Standard

/-! ## Names outside strings -/

section Names

variable {style : Style} (hstyle : style.Spaced)

lemma names_jsonString (s : String) (rest : List Char) :
    Names False (jsonString s ++ rest) rest := by
  obtain ⟨cs, hcs, hquote⟩ := Standard.exists_quote_jsonString s rest
  exact hcs ▸ hquote.names

lemma names_blank {gap : List Char} (hgap : Blank gap) (rest : List Char) :
    Names False (gap ++ rest) rest := (Standard.gap_append hgap rest).names

/-- A double is written by its name exactly if it is not finite. -/
lemma names_scalarChars (s : Scalar) (rest : List Char) :
    Names (¬ s.IsFinite) (scalarChars s ++ rest) rest := by
  have hfinite : ∀ {cs rest}, s.IsFinite → Names False cs rest → Names (¬ s.IsFinite) cs rest :=
    fun hs h => h.congr (iff_of_false id (not_not_intro hs))
  cases s with
  | null => exact hfinite trivial (Standard.Phrase.names (N := fun _ => True) .null)
  | bool b =>
      cases b with
      | true => exact hfinite trivial (Standard.Phrase.names (N := fun _ => True) .yes)
      | false => exact hfinite trivial (Standard.Phrase.names (N := fun _ => True) .no)
  | int n =>
      obtain ⟨m, hm⟩ := Standard.exists_numeral_intChars n
      rw [scalarChars, ← hm]
      exact hfinite trivial (m.names rest)
  | num x =>
      cases x with
      | finite x =>
          obtain ⟨m, hm⟩ := Standard.exists_numeral_text x
          rw [scalarChars, ← hm]
          exact hfinite rfl (m.names rest)
      | infinite negative =>
          refine (Names.append ?_ rest).congr (iff_of_true ?_ Bool.false_ne_true)
          · cases negative <;> simp [scalarChars, Layout.text, jsonLayout]
          · cases negative <;> simp [scalarChars, Layout.text, jsonLayout, nameStarts]
      | undefined =>
          refine (Names.append ?_ rest).congr (iff_of_true ?_ Bool.false_ne_true)
          · simp [scalarChars, Layout.text, jsonLayout]
          · simp [scalarChars, Layout.text, jsonLayout, nameStarts]
  | str s => exact hfinite trivial (names_jsonString s rest)

include hstyle

lemma names_renderItems (depth : ℕ) {vs : List Json}
    (h : ∀ v ∈ vs, ∀ rest, Names (¬ v.Each Scalar.IsFinite) (v.render style depth ++ rest) rest)
    (rest : List Char) : Names (∃ v ∈ vs, ¬ v.Each Scalar.IsFinite)
      (Json.renderItems style depth vs ++ rest) rest := by
  induction vs with
  | nil =>
      rw [Json.renderItems]
      exact (Names.refl rest).congr (by simp)
  | cons v vs ih =>
      rw [List.forall_mem_cons] at h
      simp only [Json.renderItems, List.append_assoc, List.cons_append]
      have hitems := ((h.1 _).trans (ih h.2)).after (names_blank (hstyle.comma depth) _)
      exact (hitems.cons ',' (by decide)).congr (by simp)

lemma names_renderMembers (depth : ℕ) {ms : List (String × Json)}
    (h : ∀ m ∈ ms, ∀ rest,
      Names (¬ m.2.Each Scalar.IsFinite) (m.2.render style depth ++ rest) rest)
    (rest : List Char) : Names (∃ m ∈ ms, ¬ m.2.Each Scalar.IsFinite)
      (Json.renderMembers style depth ms ++ rest) rest := by
  induction ms with
  | nil =>
      rw [Json.renderMembers]
      exact (Names.refl rest).congr (by simp)
  | cons m ms ih =>
      rw [List.forall_mem_cons] at h
      simp only [Json.renderMembers, List.append_assoc, List.cons_append, List.nil_append]
      have hvalue := (((h.1 _).trans (ih h.2)).cons ' ' (by decide)).cons ':' (by decide)
      have hmember := hvalue.after (names_jsonString m.1 _)
      exact ((hmember.after (names_blank (hstyle.comma depth) _)).cons ',' (by decide)).congr
        (by simp)

/-- **A double that is not finite** is named outside the strings of a text, and nothing else is. -/
lemma names_render (v : Json) (depth : ℕ) (rest : List Char) :
    Names (¬ v.Each Scalar.IsFinite) (v.render style depth ++ rest) rest := by
  have hclose : ∀ (c : Char) (depth : ℕ) (rest : List Char), c ∉ '\x22' :: nameStarts →
      Names False (style.bracket depth ++ c :: rest) rest := fun c depth rest hc =>
    ((Names.refl rest).cons c hc).after (names_blank (hstyle.bracket depth) _)
  induction v using Json.valueInduction generalizing depth rest with
  | scalar s =>
      rw [Json.render, Json.each_scalar_iff]
      exact names_scalarChars s rest
  | list items ih =>
      cases items with
      | nil =>
          rw [Json.render]
          exact (((Names.refl rest).cons ']' (by decide)).cons '[' (by decide)).congr (by simp)
      | cons v vs =>
          rw [render_list_append]
          rw [List.forall_mem_cons] at ih
          have hitems := (names_renderItems hstyle (depth + 1)
            (fun x hx rest => ih.2 x hx (depth + 1) rest) _).trans (hclose ']' depth rest (by decide))
          have hall := ((ih.1 (depth + 1) _).trans hitems).after
            (names_blank (hstyle.bracket (depth + 1)) _)
          exact (hall.cons '[' (by decide)).congr (by simp [imp_iff_not_or])
  | object members ih =>
      cases members with
      | nil =>
          rw [Json.render]
          exact (((Names.refl rest).cons '\x7d' (by decide)).cons '\x7b' (by decide)).congr (by simp)
      | cons m ms =>
          rw [render_object_append]
          rw [List.forall_mem_cons] at ih
          have hmembers := (names_renderMembers hstyle (depth + 1)
            (fun x hx rest => ih.2 x hx (depth + 1) rest) _).trans
              (hclose '\x7d' depth rest (by decide))
          have hvalue :=
            (((ih.1 (depth + 1) _).trans hmembers).cons ' ' (by decide)).cons ':' (by decide)
          have hmember := (hvalue.after (names_jsonString m.1 _)).after
            (names_blank (hstyle.bracket (depth + 1)) _)
          refine (hmember.cons '\x7b' (by decide)).congr ?_
          rw [Json.each_object_iff, List.forall_mem_cons]
          simp [Scalar.IsFinite, imp_iff_not_or]

/-- The text of a value names no such double exactly if none is in the value. -/
lemma bare_render_iff (v : Json) :
    (∀ c ∈ bare false (v.render style 0), c ∉ nameStarts) ↔ v.Each Scalar.IsFinite := by
  obtain ⟨ds, hds, hname⟩ := names_render hstyle v 0 []
  rw [List.append_nil, bare, List.append_nil] at hds
  rw [hds, ← not_iff_not, ← hname]
  simp

end Names

namespace Standard

/-- **The text of a value** is standard exactly if all of its doubles are finite. -/
theorem render_iff {style : Style} (hstyle : style.Spaced) (v : Json) :
    Standard (v.render style 0) ↔ v.Each Scalar.IsFinite := by
  constructor
  · intro h
    exact (bare_render_iff hstyle v).mp h.bare
  · intro hv
    have h := phrase_render hstyle hv 0 []
    rw [List.append_nil] at h
    exact ⟨_, _, .none, h, .none⟩

end Standard

end DashboardSurvey
