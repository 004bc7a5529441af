import DashboardSurvey.Proofs.Range
import DashboardSurvey.Proofs.Standard

/-!
# What is read from a standard text

The readers also take what is no JSON by the standard: the names of the doubles that are not finite.
From a text that is standard they never take the one that is not a number, and an infinity only from
a numeral beyond the range of the doubles.

* `Standard.Numeral.InRange` — a numeral whose double is finite.
* `Standard.Yields` — what a condition on numerals means for the scalars that are read.
* `Standard.readNumber_chars`, `Standard.Quote.readString` — the readers of tokens.
* `Standard.Phrase.reads`, **`Standard.Document.each_of_decode`** — what values are read.
-/

namespace DashboardSurvey

namespace Standard

variable {rest : List Char}

/-! ## Numbers -/

/-- The numeral is a whole number, or its double is finite. -/
def Numeral.InRange (n : Numeral) : Prop := n.IsWhole ∨ n.decimal.InRange

instance (n : Numeral) : Decidable n.InRange := inferInstanceAs (Decidable (_ ∨ _))

lemma Exponent.readExponent (e : Exponent) (hrest : Ends rest) :
    readExponent (e.chars ++ rest) = some (e.power, rest) := by
  have hspan := span_isDigit e.isDigit fun c hc => (hrest.not_part hc).1
  obtain ⟨d, ds, hds⟩ := List.exists_cons_of_ne_nil e.digits_ne
  have hsign : readSign (e.sign ++ e.digits ++ rest) = (e.sign == ['-'], e.digits ++ rest) := by
    rcases e.sign_mem with h | h | h
    · have hd : d.isDigit = true := e.isDigit d (hds ▸ List.mem_cons_self)
      rw [h, hds, List.nil_append, List.cons_append, readSign.eq_def]
      split
      · rename_i heq
        exact absurd ((List.cons.inj heq).1 ▸ hd) (by decide)
      · rename_i heq
        exact absurd ((List.cons.inj heq).1 ▸ hd) (by decide)
      · rfl
    · rw [h]; rfl
    · rw [h]; rfl
  rw [Exponent.chars, List.cons_append, DashboardSurvey.readExponent]
  dsimp only
  rw [if_pos e.mark_mem, hsign]
  dsimp only
  rw [hspan.1, hspan.2, if_neg (by simp [e.digits_ne])]
  rfl

namespace Numeral

variable {n : Numeral}

/-- What follows the fraction is no part of it. -/
lemma exponentChars_head (hrest : Ends rest) {c : Char}
    (hc : c ∈ (n.exponentChars ++ rest).head?) : c.isDigit = false ∧ c ≠ '.' := by
  rw [exponentChars] at hc
  cases he : n.exponent with
  | none =>
      rw [he] at hc
      exact ⟨(hrest.not_part hc).1, (hrest.not_part hc).2.1⟩
  | some e =>
      rw [he] at hc
      obtain rfl : e.mark = c := Option.some.inj hc
      rcases e.mark_mem with h | h <;> rw [h] <;> decide

lemma readExponent (hrest : Ends rest) :
    readExponent (n.exponentChars ++ rest) = n.exponent.map fun e => (e.power, rest) := by
  rw [exponentChars]
  cases n.exponent with
  | none => exact hrest.readExponent
  | some e => exact e.readExponent hrest

lemma readFraction (hrest : Ends rest) :
    readFraction (n.fractionChars ++ (n.exponentChars ++ rest))
      = if n.fraction = [] then none else some (n.fraction, n.exponentChars ++ rest) := by
  have hhead := fun c hc => exponentChars_head (n := n) (c := c) hrest hc
  rw [fractionChars]
  split_ifs with h
  · rw [List.nil_append, DashboardSurvey.readFraction.eq_def]
    split
    · rename_i heq
      exact absurd rfl (hhead '.' (by rw [heq]; rfl)).2
    · rfl
  · obtain ⟨d, ds, hds⟩ := List.exists_cons_of_ne_nil h
    have hdigits := n.fraction_isDigit
    rw [hds, List.forall_mem_cons] at hdigits
    have hspan := span_isDigit hdigits.2 fun c hc => (hhead c hc).1
    rw [hds, List.cons_append, List.cons_append, DashboardSurvey.readFraction]
    simp only [hdigits.1, if_true, hspan.1, hspan.2]

lemma readWhole (hrest : Ends rest) :
    readWhole (n.whole ++ (n.fractionChars ++ (n.exponentChars ++ rest)))
      = some (n.whole, n.fractionChars ++ (n.exponentChars ++ rest)) := by
  refine readWhole_append n.whole_ne n.whole_isDigit n.whole_zero fun c hc => ?_
  rw [fractionChars] at hc
  split_ifs at hc
  · exact (exponentChars_head hrest hc).1
  · obtain rfl : '.' = c := Option.some.inj hc
    decide

end Numeral

/-- **A numeral is read** as a double if it has a fraction or an exponent, and else, if it is not too
long, as the whole number that it writes. -/
lemma readNumber_chars (n : Numeral) (hrest : Ends rest) :
    readNumber (n.chars ++ rest) =
      if n.IsWhole then
        if longestWhole < n.whole.length then
          .error ⟨.longWhole n.whole.length, (n.chars ++ rest).length⟩
        else .ok (.int (Binary64.signed n.negative (digitsValue n.whole)), rest)
      else .ok (.num (Binary64.ofDecimal n.negative n.decimal), rest) := by
  have hread := readNumber_of_whole n.negative (Numeral.readWhole (n := n) hrest)
  rw [← List.append_assoc n.fractionChars, ← List.append_assoc n.whole, ← List.append_assoc,
    ← Numeral.chars, List.append_assoc n.fractionChars, Numeral.readFraction hrest] at hread
  rw [hread]
  by_cases hfraction : n.fraction = []
  · have hpoint : n.fractionChars = [] := if_pos hfraction
    rw [if_pos hfraction, hpoint, List.nil_append, Numeral.readExponent hrest]
    cases he : n.exponent with
    | none =>
        have hnone : n.exponentChars = [] := by rw [Numeral.exponentChars, he]; rfl
        have hwhole : n.IsWhole := ⟨hfraction, he⟩
        rw [if_pos hwhole, hnone]
        rfl
    | some e =>
        have hwhole : ¬ n.IsWhole := fun h => Option.some_ne_none e (he.symm.trans h.2)
        simp [hwhole, Numeral.decimal, he, hfraction]
  · have hwhole : ¬ n.IsWhole := fun h => hfraction h.1
    rw [if_neg hfraction, if_neg hwhole]
    simp only [Numeral.readExponent hrest]
    cases he : n.exponent with
    | none =>
        have hnone : n.exponentChars = [] := by rw [Numeral.exponentChars, he]; rfl
        simp [Numeral.decimal, he, hnone]
    | some e => simp [Numeral.decimal, he]

/-! ## Strings -/

lemma Quote.readCodeEscape {c₁ c₂ c₃ c₄ : Char} {n : ℕ} {cs cs' : List Char} (h : Quote cs rest)
    (hread : readCodeEscape (c₁ :: c₂ :: c₃ :: c₄ :: cs) = .ok (n, cs')) : Quote cs' rest := by
  have hkept : ∀ {m : ℕ}, (.ok (m, cs) : Except Refusal (ℕ × List Char)) = .ok (n, cs') →
      Quote cs' rest := by
    intro m heq
    obtain rfl := congrArg Prod.snd (Except.ok.inj heq)
    exact h
  unfold DashboardSurvey.readCodeEscape at hread
  split at hread
  · rename_i heq
    simp only [List.cons.injEq] at heq
    obtain ⟨-, -, -, -, rfl⟩ := heq
    split at hread
    · cases hread
    · dsimp only at hread
      split at hread
      · split_ifs at hread
        · split at hread
          · cases hread
          · split_ifs at hread
            · -- the second half of a pair is an escape of its own
              obtain rfl := congrArg Prod.snd (Except.ok.inj hread)
              cases h with
              | code _ h => exact h
              | letter hc _ => exact absurd hc (by decide)
              | plain _ _ hslash _ => exact absurd rfl hslash
            · exact hkept hread
        · exact hkept hread
      · exact hkept hread
  · cases hread

lemma Quote.readElement {start cs cs' : List Char} {o : Option (List Char)} (h : Quote cs rest)
    (hread : readElement start cs = .ok (o, cs')) :
    if o.isSome then Quote cs' rest else cs' = rest := by
  unfold DashboardSurvey.readElement at hread
  cases h with
  | close =>
      obtain ⟨rfl, rfl⟩ := Prod.mk.inj (Except.ok.inj hread)
      rfl
  | plain hc hquote hslash h =>
      dsimp only at hread
      rw [if_neg hquote, if_neg hslash, if_neg (Char.not_lt.mpr hc)] at hread
      obtain ⟨rfl, rfl⟩ := Prod.mk.inj (Except.ok.inj hread)
      exact h
  | letter hc h =>
      have hu : ∀ c ∈ letters, c ≠ 'u' := List.all_iff_forall_prop.mp (by decide)
      dsimp only at hread
      rw [if_neg (by decide), if_pos rfl] at hread
      rw [if_neg (hu _ hc)] at hread
      split at hread
      · obtain ⟨rfl, rfl⟩ := Prod.mk.inj (Except.ok.inj hread)
        exact h
      · cases hread
  | code _ h =>
      dsimp only at hread
      rw [if_neg (by decide), if_pos rfl] at hread
      rw [if_pos rfl] at hread
      split at hread
      · cases hread
      · rename_i hescape
        obtain ⟨rfl, rfl⟩ := Prod.mk.inj (Except.ok.inj hread)
        exact h.readCodeEscape hescape

/-- **A string is read** up to its closing quotation mark. -/
lemma Quote.readString {start cs ds rest' : List Char} (h : Quote cs rest)
    (hread : readString start cs = .ok (ds, rest')) : rest' = rest := by
  induction hn : cs.length using Nat.strongRecOn generalizing cs ds with
  | ind n ih =>
      rw [DashboardSurvey.readString] at hread
      split at hread
      · cases hread
      · rename_i hnext
        obtain rfl := congrArg Prod.snd (Except.ok.inj hread)
        simpa using h.readElement hnext
      · rename_i hnext
        obtain ⟨⟨more, _⟩, hmore, heq⟩ := map_eq_ok.mp hread
        obtain rfl := congrArg Prod.snd heq
        have hquote := h.readElement hnext
        exact ih _ (hn ▸ length_readElement hnext) (by simpa using hquote) hmore rfl

/-! ## Values -/

/-- **What a condition on numerals means** for the scalars that are read: they have the property, as
all scalars have that are no doubles. -/
structure Yields (N : Numeral → Prop) (P : Scalar → Prop) : Prop where
  plain : ∀ s : Scalar, s.NoDouble → P s
  double : ∀ n, N n → ¬ n.IsWhole → P (.num (Binary64.ofDecimal n.negative n.decimal))

/-- The values that are read from a part of a text have the property, and the part is read down to
what follows it. -/
def Reads (P : Scalar → Prop) : Part → List Char → List Char → Prop
  | .value, cs, rest => ∀ {fuel v rest'}, Ends rest →
      readValue fuel cs = .ok (v, rest') → rest' = rest ∧ v.Each P
  | .items, cs, rest => ∀ {fuel vs rest'},
      readItems fuel cs = .ok (vs, rest') → rest' = rest ∧ ∀ v ∈ vs, v.Each P
  | .members, cs, rest => ∀ {fuel ms rest'},
      readMembers fuel cs = .ok (ms, rest') → rest' = rest ∧ ∀ m ∈ ms, m.2.Each P

section Reading

variable {N : Numeral → Prop} {P : Scalar → Prop} {p : Part} {cs ds es fs gs hs is : List Char}

lemma Gap.exists_blank (h : Gap cs rest) : ∃ gap, Blank gap ∧ cs = gap ++ rest := by
  induction h with
  | none => exact ⟨[], List.forall_mem_nil _, rfl⟩
  | @blank c cs rest hc _ ih =>
      obtain ⟨gap, hgap, rfl⟩ := ih
      exact ⟨c :: gap, List.forall_mem_cons.mpr ⟨hc, hgap⟩, rfl⟩

lemma Gap.skipSpace (h : Gap cs rest) (hrest : StartsToken rest) : skipSpace cs = rest := by
  obtain ⟨gap, hgap, rfl⟩ := h.exists_blank
  exact skipSpace_append hgap hrest

lemma Gap.ends (h : Gap cs rest) (hrest : Ends rest) : Ends cs := by
  obtain ⟨gap, hgap, rfl⟩ := h.exists_blank
  exact .after_blank hgap hrest

lemma Phrase.startsToken (h : Phrase N p cs rest) : StartsToken cs := by
  obtain ⟨c, more, heq, hc⟩ := h.startsValue
  exact ⟨c, more, heq, hc.1⟩

lemma readValue_chars (n : Numeral) (fuel : ℕ) (rest : List Char) :
    readValue (fuel + 1) (n.chars ++ rest)
      = (readNumber (n.chars ++ rest)).map fun p => (.scalar p.1, p.2) := by
  obtain ⟨c, cs, hcs⟩ := List.exists_cons_of_ne_nil n.whole_ne
  have hc : c.isDigit = true := n.whole_isDigit c (hcs ▸ List.mem_cons_self)
  rw [Numeral.chars, hcs]
  cases n.negative with
  | true => exact readValue_minus fuel hc _
  | false => exact readValue_digit fuel hc _

/-- What is read of the first of items, which what follows ends. -/
lemma Reads.first_item (h : Reads P .value cs ds) (hds : Ends ds) {fuel : ℕ} {vs : List Json}
    {rest' : List Char} (hread : readItems fuel cs = .ok (vs, rest')) :
    ∃ fuel' v, v.Each P ∧ (skipSpace ds = ']' :: rest' ∧ vs = [v]
      ∨ ∃ es ws, skipSpace ds = ',' :: es ∧ readItems fuel' (skipSpace es) = .ok (ws, rest')
        ∧ vs = v :: ws) := by
  obtain ⟨fuel', v, ds', -, hvalue, hnext⟩ := readItems_eq_ok hread
  obtain ⟨rfl, heach⟩ := h hds hvalue
  exact ⟨fuel', v, heach, hnext⟩

lemma Reads.lastItem (h : Reads P .value cs ds) (hend : Gap ds (']' :: rest)) :
    Reads P .items cs rest := by
  intro fuel vs rest' hread
  obtain ⟨fuel', v, heach, hnext⟩ := h.first_item (hend.ends (.mark (by simp))) hread
  rw [hend.skipSpace ⟨_, _, rfl, rfl⟩] at hnext
  rcases hnext with ⟨hclose, rfl⟩ | ⟨es, ws, hcomma, -⟩
  · exact ⟨(List.cons.inj hclose).2.symm, List.forall_mem_singleton.mpr heach⟩
  · exact absurd (List.cons.inj hcomma).1 (by decide)

lemma Reads.item (hv : Reads P .value cs ds) (hcomma : Gap ds (',' :: es)) (hgap : Gap es fs)
    (hfs : StartsToken fs) (h : Reads P .items fs rest) : Reads P .items cs rest := by
  intro fuel vs rest' hread
  obtain ⟨fuel', v, heach, hnext⟩ := hv.first_item (hcomma.ends (.mark (by simp))) hread
  rw [hcomma.skipSpace ⟨_, _, rfl, rfl⟩] at hnext
  rcases hnext with ⟨hclose, -⟩ | ⟨es', ws, heq, hws, rfl⟩
  · exact absurd (List.cons.inj hclose).1 (by decide)
  · rw [← (List.cons.inj heq).2, hgap.skipSpace hfs] at hws
    obtain ⟨hrest, hall⟩ := h hws
    exact ⟨hrest, List.forall_mem_cons.mpr ⟨heach, hall⟩⟩

/-- What is read of the first of members, which what follows ends. -/
lemma Reads.first_member (h : Reads P .value fs gs) (hname : Quote cs ds)
    (hcolon : Gap ds (':' :: es)) (hgap : Gap es fs) (hfs : StartsToken fs) (hgs : Ends gs)
    {fuel : ℕ} {ms : List (String × Json)} {rest' : List Char}
    (hread : readMembers fuel ('\x22' :: cs) = .ok (ms, rest')) :
    ∃ fuel' name v, v.Each P ∧ (skipSpace gs = '\x7d' :: rest' ∧ ms = [(name, v)]
      ∨ ∃ hs ns, skipSpace gs = ',' :: hs ∧ readMembers fuel' (skipSpace hs) = .ok (ns, rest')
        ∧ ms = (name, v) :: ns) := by
  obtain ⟨fuel', body, name, ds', es', v, gs', -, hbody, hstring, hmark, hvalue, hnext⟩ :=
    readMembers_eq_ok hread
  obtain ⟨-, rfl⟩ := List.cons.inj hbody
  obtain rfl := hname.readString hstring
  rw [hcolon.skipSpace ⟨_, _, rfl, rfl⟩] at hmark
  obtain ⟨-, rfl⟩ := List.cons.inj hmark
  rw [hgap.skipSpace hfs] at hvalue
  obtain ⟨rfl, heach⟩ := h hgs hvalue
  exact ⟨fuel', String.ofList name, v, heach, hnext⟩

lemma Reads.lastMember (h : Reads P .value fs gs) (hname : Quote cs ds)
    (hcolon : Gap ds (':' :: es)) (hgap : Gap es fs) (hfs : StartsToken fs)
    (hend : Gap gs ('\x7d' :: rest)) : Reads P .members ('\x22' :: cs) rest := by
  intro fuel ms rest' hread
  obtain ⟨fuel', name, v, heach, hnext⟩ :=
    h.first_member hname hcolon hgap hfs (hend.ends (.mark (by simp))) hread
  rw [hend.skipSpace ⟨_, _, rfl, rfl⟩] at hnext
  rcases hnext with ⟨hclose, rfl⟩ | ⟨hs, ns, hcomma, -⟩
  · exact ⟨(List.cons.inj hclose).2.symm, List.forall_mem_singleton.mpr heach⟩
  · exact absurd (List.cons.inj hcomma).1 (by decide)

lemma Reads.member (hv : Reads P .value fs gs) (hname : Quote cs ds)
    (hcolon : Gap ds (':' :: es)) (hgap : Gap es fs) (hfs : StartsToken fs)
    (hcomma : Gap gs (',' :: hs)) (hgap' : Gap hs is) (his : StartsToken is)
    (h : Reads P .members is rest) : Reads P .members ('\x22' :: cs) rest := by
  intro fuel ms rest' hread
  obtain ⟨fuel', name, v, heach, hnext⟩ :=
    hv.first_member hname hcolon hgap hfs (hcomma.ends (.mark (by simp))) hread
  rw [hcomma.skipSpace ⟨_, _, rfl, rfl⟩] at hnext
  rcases hnext with ⟨hclose, -⟩ | ⟨hs', ns, heq, hns, rfl⟩
  · exact absurd (List.cons.inj hclose).1 (by decide)
  · rw [← (List.cons.inj heq).2, hgap'.skipSpace his] at hns
    obtain ⟨hrest, hall⟩ := h hns
    exact ⟨hrest, List.forall_mem_cons.mpr ⟨heach, hall⟩⟩

variable (hyields : Yields N P)
include hyields

lemma Yields.each_of_readNumber {n : Numeral} (hn : N n) (hrest : Ends rest) {s : Scalar}
    {rest' : List Char} (hread : readNumber (n.chars ++ rest) = .ok (s, rest')) :
    rest' = rest ∧ P s := by
  rw [readNumber_chars n hrest] at hread
  split_ifs at hread with hwhole
  · obtain ⟨rfl, rfl⟩ := Prod.mk.inj (Except.ok.inj hread)
    exact ⟨rfl, hyields.plain _ trivial⟩
  · obtain ⟨rfl, rfl⟩ := Prod.mk.inj (Except.ok.inj hread)
    exact ⟨rfl, hyields.double n hn hwhole⟩

lemma Phrase.reads (h : Phrase N p cs rest) : Reads P p cs rest := by
  have hword : ∀ (s : Scalar) {rest rest' : List Char} {v : Json}, s.NoDouble →
      (.ok (.scalar s, rest) : Except Refusal (Json × List Char)) = .ok (v, rest') →
      rest' = rest ∧ v.Each P := by
    intro s rest rest' v hs h
    obtain ⟨rfl, rfl⟩ := Prod.mk.inj (Except.ok.inj h)
    exact ⟨rfl, .scalar (hyields.plain s hs)⟩
  -- without a bound nothing is read, so a reader starts with the first token
  have hfuel : ∀ {fuel : ℕ} {cs rest' : List Char} {v : Json},
      readValue fuel cs = .ok (v, rest') → ∃ fuel', fuel = fuel' + 1 := by
    intro fuel cs rest' v h
    cases fuel with
    | zero => cases h
    | succ fuel => exact ⟨fuel, rfl⟩
  induction h with
  | null =>
      intro fuel v rest' _ hread
      obtain ⟨fuel, rfl⟩ := hfuel hread
      exact hword .null trivial hread
  | yes =>
      intro fuel v rest' _ hread
      obtain ⟨fuel, rfl⟩ := hfuel hread
      exact hword (.bool true) trivial hread
  | no =>
      intro fuel v rest' _ hread
      obtain ⟨fuel, rfl⟩ := hfuel hread
      exact hword (.bool false) trivial hread
  | number n hn =>
      intro fuel v rest' hrest hread
      obtain ⟨fuel, rfl⟩ := hfuel hread
      rw [readValue_chars] at hread
      obtain ⟨⟨s, _⟩, hs, heq⟩ := map_eq_ok.mp hread
      obtain ⟨rfl, rfl⟩ := Prod.mk.inj heq
      obtain ⟨hend, hp⟩ := hyields.each_of_readNumber hn hrest hs
      exact ⟨hend, .scalar hp⟩
  | text h =>
      intro fuel v rest' _ hread
      obtain ⟨fuel, rfl⟩ := hfuel hread
      obtain ⟨⟨s, _⟩, hs, heq⟩ := map_eq_ok.mp hread
      obtain ⟨rfl, rfl⟩ := Prod.mk.inj heq
      exact ⟨h.readString hs, .scalar (hyields.plain _ trivial)⟩
  | emptyList h =>
      intro fuel v rest' _ hread
      obtain ⟨fuel, rfl⟩ := hfuel hread
      rw [readValue, h.skipSpace ⟨_, _, rfl, rfl⟩] at hread
      obtain ⟨rfl, rfl⟩ := Prod.mk.inj (Except.ok.inj hread)
      exact ⟨rfl, .list (List.forall_mem_nil _)⟩
  | list hgap h ih =>
      intro fuel v rest' _ hread
      obtain ⟨fuel, rfl⟩ := hfuel hread
      obtain ⟨c, more, heq, hc⟩ := h.startsValue
      rw [readValue_items (hgap.skipSpace h.startsToken) (by simp [heq, hc.2.1])] at hread
      obtain ⟨⟨vs, _⟩, hvs, heq⟩ := map_eq_ok.mp hread
      obtain ⟨rfl, rfl⟩ := Prod.mk.inj heq
      exact ⟨(ih hvs).1, .list (ih hvs).2⟩
  | emptyObject h =>
      intro fuel v rest' _ hread
      obtain ⟨fuel, rfl⟩ := hfuel hread
      rw [readValue, h.skipSpace ⟨_, _, rfl, rfl⟩] at hread
      obtain ⟨rfl, rfl⟩ := Prod.mk.inj (Except.ok.inj hread)
      exact ⟨rfl, .object (List.forall_mem_nil _) (List.forall_mem_nil _)⟩
  | object hgap h ih =>
      intro fuel v rest' _ hread
      obtain ⟨fuel, rfl⟩ := hfuel hread
      rw [readValue, hgap.skipSpace h.startsToken] at hread
      split at hread
      · cases h
      · obtain ⟨⟨ms, _⟩, hms, heq⟩ := map_eq_ok.mp hread
        obtain ⟨rfl, rfl⟩ := Prod.mk.inj heq
        exact ⟨(ih hms).1, .object (fun m _ => hyields.plain _ trivial)
          fun m hm => (ih hms).2 m (mem_joinMembers hm)⟩
  | lastItem _ hend ih => exact ih.lastItem hend
  | item _ hcomma hgap h ihv ih => exact ihv.item hcomma hgap h.startsToken ih
  | lastMember hname hcolon hgap hv hend ih =>
      exact ih.lastMember hname hcolon hgap hv.startsToken hend
  | member hname hcolon hgap hv hcomma hgap' h ihv ih =>
      exact ihv.member hname hcolon hgap hv.startsToken hcomma hgap' h.startsToken ih

/-- **What is read from a standard text** has the property. -/
theorem Document.each_of_decode (h : Document N cs) {v : Json} (hread : Json.decode cs = .ok v) :
    v.Each P := by
  obtain ⟨ds, es, hds, hv, hes⟩ := h
  obtain ⟨fuel, rest', hvalue, -⟩ := decode_eq_ok hread
  rw [hds.skipSpace hv.startsToken] at hvalue
  exact (hv.reads hyields (hes.ends nofun) hvalue).2

end Reading

/-! ## Doubles -/

/-- All numerals are read as numbers. -/
lemma yields_isDefined : Yields (fun _ => True) Scalar.IsDefined where
  plain s hs heq := by
    rw [heq] at hs
    exact hs
  double n _ _ heq := Binary64.ofDecimal_ne_undefined _ _ (Scalar.num.inj heq)

/-- Numerals in range are read as finite numbers. -/
lemma yields_isFinite : Yields Numeral.InRange Scalar.IsFinite where
  plain s hs := by
    cases s with
    | num x => exact hs.elim
    | _ => trivial
  double n hn hwhole :=
    (Binary64.isFinite_ofDecimal _ _).mpr (hn.resolve_left hwhole)

end Standard

end DashboardSurvey
