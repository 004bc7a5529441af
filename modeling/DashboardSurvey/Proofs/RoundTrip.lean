import Mathlib.Order.Basic
import DashboardSurvey.Proofs.Distinct
import DashboardSurvey.Proofs.Escapes

/-!
# JSON text comes back as its value

The text of a value is read as the value again, whatever blanks the style puts between the tokens.
It does not matter what follows the text of a part: a number ends at what cannot belong to it, and
everything else ends with a bracket or a quotation mark.  Only whole numbers with very many digits
are written but not read, so all statements tell what is taken and what is refused.

* `Ends` — what may follow a value; `Takes` — a reader takes a value, or refuses a long number.
* `takes_intChars` — whole numbers.
* `Json.Each`, `Json.Faithful` — the values that are written without loss: no doubles, texts of
  characters, every member named once.
* `Style.Spaced` — a style puts only blanks between tokens; `skipSpace_append` skips them.
* `ReadsBack`, `readsBack` — the readers of values, items and members, by their bound.
* **`decode_render`** — the text of a value as a whole.
-/

namespace DashboardSurvey

/-! ## Numbers -/

/-- The characters that a value can be followed by: what stands next ends it. -/
def Ends (cs : List Char) : Prop :=
  ∀ c ∈ cs.head?, isJsonSpace c = true ∨ c = ',' ∨ c = ']' ∨ c = '\x7d'

lemma Ends.not_part {c : Char} {cs : List Char} (h : Ends cs) (hc : c ∈ cs.head?) :
    c.isDigit = false ∧ c ≠ '.' ∧ c ≠ 'e' ∧ c ≠ 'E' := by
  have hc := h c hc
  simp only [isJsonSpace, Bool.or_eq_true, decide_eq_true_eq] at hc
  rcases hc with ((((rfl | rfl) | rfl) | rfl) | rfl | rfl | rfl) <;> decide

lemma digitsValue_toDigits (n : ℕ) : digitsValue (Nat.toDigits 10 n) = n := by
  have hfold : ∀ ds, digitsValue ds = Nat.ofDigitChars 10 ds 0 := by
    intro ds
    rw [Nat.ofDigitChars_eq_foldl, digitsValue]
    simp only [Nat.mul_comm]
    rfl
  rw [hfold, Nat.ofDigitChars_ten_toDigits]

/-- Only zero is written with a zero in front. -/
lemma exists_toDigits (n : ℕ) : ∃ c cs, Nat.toDigits 10 n = c :: cs ∧ (c = '0' → cs = []) := by
  induction n using Nat.strongRecOn with
  | ind n ih =>
      by_cases hn : n < 10
      · exact ⟨_, [], Nat.toDigits_of_lt_base hn, fun _ => rfl⟩
      · have hle : 10 ≤ n := not_lt.mp hn
        obtain ⟨c, cs, hcs, hzero⟩ := ih (n / 10) (Nat.div_lt_self (by omega) (by decide))
        refine ⟨c, cs ++ [(n % 10).digitChar], ?_, fun hc => ?_⟩
        · rw [Nat.toDigits_of_base_le (by decide) hle, hcs, List.cons_append]
        · have hvalue := digitsValue_toDigits (n / 10)
          rw [hcs, hzero hc, hc] at hvalue
          have hpos : 0 < n / 10 := Nat.div_pos hle (by decide)
          exact absurd hvalue hpos.ne

lemma isDigit_toDigits {n : ℕ} {c : Char} (h : c ∈ Nat.toDigits 10 n) : c.isDigit = true :=
  Nat.isDigit_of_mem_toDigits (by decide) (by decide) h

/-- Digits are taken up to what is none. -/
lemma span_isDigit {ds rest : List Char} (hds : ∀ c ∈ ds, c.isDigit = true)
    (hrest : ∀ c ∈ rest.head?, c.isDigit = false) :
    (ds ++ rest).takeWhile Char.isDigit = ds ∧ (ds ++ rest).dropWhile Char.isDigit = rest := by
  rw [List.takeWhile_append_of_pos hds, List.dropWhile_append_of_pos hds]
  cases rest with
  | nil => exact ⟨List.append_nil ds, rfl⟩
  | cons c more =>
      have hno : ¬ c.isDigit = true := by simp [hrest c rfl]
      rw [List.takeWhile_cons_of_neg hno, List.dropWhile_cons_of_neg hno]
      exact ⟨List.append_nil ds, rfl⟩

/-- A whole part is taken up to what is no digit. -/
lemma readWhole_append {ds rest : List Char} (hne : ds ≠ []) (hds : ∀ c ∈ ds, c.isDigit = true)
    (hzero : ds.head? = some '0' → ds = ['0']) (hrest : ∀ c ∈ rest.head?, c.isDigit = false) :
    readWhole (ds ++ rest) = some (ds, rest) := by
  obtain ⟨c, cs, rfl⟩ := List.exists_cons_of_ne_nil hne
  rw [List.forall_mem_cons] at hds
  obtain ⟨htake, hdrop⟩ := span_isDigit hds.2 hrest
  rw [List.cons_append, readWhole]
  by_cases hc : c = '0'
  · obtain ⟨-, rfl⟩ := List.cons.inj (hzero (congrArg some hc))
    rw [if_pos hc, List.nil_append]
  · rw [if_neg hc, if_pos hds.1, htake, hdrop]

lemma readWhole_toDigits (n : ℕ) {rest : List Char} (hrest : Ends rest) :
    readWhole (Nat.toDigits 10 n ++ rest) = some (Nat.toDigits 10 n, rest) := by
  obtain ⟨c, cs, hcs, hzero⟩ := exists_toDigits n
  refine readWhole_append (hcs ▸ List.cons_ne_nil c cs) (fun c hc => isDigit_toDigits hc) ?_
    fun c hc => (hrest.not_part hc).1
  rw [hcs, List.head?_cons, Option.some.injEq]
  rintro rfl
  rw [hzero rfl]

lemma Ends.readFraction {rest : List Char} (hrest : Ends rest) : readFraction rest = none := by
  unfold DashboardSurvey.readFraction
  split
  · exact absurd rfl (hrest.not_part rfl).2.1
  · rfl

lemma Ends.readExponent {rest : List Char} (hrest : Ends rest) : readExponent rest = none := by
  unfold DashboardSurvey.readExponent
  split
  · obtain ⟨-, -, he, hE⟩ := hrest.not_part rfl
    rw [if_neg (by simp [he, hE])]
  · rfl

/-! ## What a reader takes -/

/-- The reader takes a value and leaves what follows, so far as numbers are not too long for it; if
one is, the reader says so. -/
structure Takes {α : Type} (r : Except Refusal (α × List Char)) (short : Prop) (a : α)
    (rest : List Char) : Prop where
  taken : short → r = .ok (a, rest)
  long : ¬ short → ∃ n left, r = .error ⟨.longWhole n, left⟩

namespace Takes

variable {α β : Type} {r : Except Refusal (α × List Char)} {short short' : Prop} {a : α} {b : β}
variable {rest rest' : List Char}

lemma of_ok (h : short) (hr : r = .ok (a, rest)) : Takes r short a rest :=
  ⟨fun _ => hr, fun hno => absurd h hno⟩

lemma congr (h : Takes r short a rest) (hiff : short ↔ short') : Takes r short' a rest :=
  ⟨fun hs => h.taken (hiff.mpr hs), fun hno => h.long (mt hiff.mp hno)⟩

lemma bind {f : α × List Char → Except Refusal (β × List Char)} (h : Takes r short a rest)
    (hf : Takes (f (a, rest)) short' b rest') : Takes (r >>= f) (short ∧ short') b rest' := by
  by_cases hs : short
  · rw [h.taken hs]
    exact hf.congr (and_iff_right hs).symm
  · obtain ⟨n, left, hr⟩ := h.long hs
    rw [hr]
    exact ⟨fun hboth => absurd hboth.1 hs, fun _ => ⟨n, left, rfl⟩⟩

lemma bind_ok (h : Takes r short a rest) (f : α → β) :
    Takes (r >>= fun p => .ok (f p.1, p.2)) short (f a) rest :=
  (h.bind (f := fun p => .ok (f p.1, p.2)) (.of_ok trivial rfl)).congr (and_iff_left trivial)

lemma map (h : Takes r short a rest) (f : α → β) :
    Takes (r.map fun p => (f p.1, p.2)) short (f a) rest := by
  refine ⟨fun hs => by rw [h.taken hs]; rfl, fun hno => ?_⟩
  obtain ⟨n, left, hr⟩ := h.long hno
  exact ⟨n, left, by rw [hr]; rfl⟩

end Takes

/-- So many digits are not too many to be read. -/
def Short (n : Int) : Prop := (Nat.toDigits 10 n.natAbs).length ≤ longestWhole

/-- The sign and the whole part of a number are read first. -/
lemma readNumber_of_whole (negative : Bool) {body whole rest : List Char}
    (hwhole : readWhole body = some (whole, rest)) :
    readNumber ((if negative then ['-'] else []) ++ body)
      = match readFraction rest, readExponent rest with
        | some (ds, rest), _ =>
          let (power, rest) := (readExponent rest).getD (0, rest)
          .ok (.num (Binary64.ofDecimal negative
            ⟨digitsValue (whole ++ ds), power - ds.length⟩), rest)
        | none, some (power, rest) =>
          .ok (.num (Binary64.ofDecimal negative ⟨digitsValue whole, power⟩), rest)
        | none, none =>
          if longestWhole < whole.length then .error
            ⟨.longWhole whole.length, ((if negative then ['-'] else []) ++ body).length⟩
          else .ok (.int (Binary64.signed negative (digitsValue whole)), rest) := by
  unfold readNumber
  split
  rename_i negative' body' hsign
  obtain ⟨rfl, rfl⟩ : negative = negative' ∧ body = body' := by
    cases negative with
    | true => exact Prod.mk.inj hsign
    | false =>
        split at hsign
        · rename_i hminus
          subst hminus
          cases hwhole
        · exact Prod.mk.inj hsign
  generalize readWhole body = read at hwhole
  subst hwhole
  rfl

/-- **A whole number comes back.** -/
lemma takes_intChars (n : Int) {rest : List Char} (hrest : Ends rest) :
    Takes (readNumber (intChars n ++ rest)) (Short n) (.int n) rest := by
  have hread : ∃ left, readNumber (intChars n ++ rest)
      = if longestWhole < (Nat.toDigits 10 n.natAbs).length
        then .error ⟨.longWhole (Nat.toDigits 10 n.natAbs).length, left⟩
        else .ok (.int n, rest) := by
    have hwhole := readWhole_toDigits n.natAbs hrest
    by_cases hn : n < 0
    · have hsigned : Binary64.signed true n.natAbs = n := by
        simp only [Binary64.signed, if_true]
        omega
      have hread := readNumber_of_whole true hwhole
      simp only [hrest.readFraction, hrest.readExponent, digitsValue_toDigits, hsigned] at hread
      exact ⟨_, by rw [intChars, if_pos hn]; exact hread⟩
    · have hsigned : Binary64.signed false n.natAbs = n := by
        simp only [Binary64.signed, Bool.false_eq_true, if_false]
        omega
      have hread := readNumber_of_whole false hwhole
      simp only [hrest.readFraction, hrest.readExponent, digitsValue_toDigits, hsigned] at hread
      exact ⟨_, by rw [intChars, if_neg hn]; exact hread⟩
  obtain ⟨left, hread⟩ := hread
  rw [hread]
  constructor
  · intro hshort
    rw [if_neg (not_lt.mpr hshort)]
  · intro hlong
    rw [if_pos (not_le.mp hlong)]
    exact ⟨_, _, rfl⟩

/-- A value that starts with a digit is a number. -/
lemma readValue_digit (fuel : ℕ) {c : Char} (hc : c.isDigit = true) (cs : List Char) :
    readValue (fuel + 1) (c :: cs) = (readNumber (c :: cs)).map fun p => (.scalar p.1, p.2) := by
  unfold readValue
  dsimp only
  split
  case h_10 => rfl
  all_goals
    rename_i heq
    obtain rfl := (List.cons.inj heq).1
    exact absurd hc (by decide)

lemma readValue_minus (fuel : ℕ) {c : Char} (hc : c.isDigit = true) (cs : List Char) :
    readValue (fuel + 1) ('-' :: c :: cs)
      = (readNumber ('-' :: c :: cs)).map fun p => (.scalar p.1, p.2) := by
  unfold readValue
  dsimp only
  split
  case h_10 => rfl
  case h_9 heq =>
    obtain rfl := (List.cons.inj (List.cons.inj heq).2).1
    exact absurd hc (by decide)
  all_goals
    rename_i heq
    exact absurd (List.cons.inj heq).1 (by decide)

lemma readValue_intChars (fuel : ℕ) (n : Int) (rest : List Char) :
    readValue (fuel + 1) (intChars n ++ rest)
      = (readNumber (intChars n ++ rest)).map fun p => (.scalar p.1, p.2) := by
  obtain ⟨c, cs, hcs, -⟩ := exists_toDigits n.natAbs
  have hc : c.isDigit = true := isDigit_toDigits (hcs ▸ List.mem_cons_self)
  rw [intChars, hcs]
  split_ifs
  · exact readValue_minus fuel hc (cs ++ rest)
  · exact readValue_digit fuel hc (cs ++ rest)

/-! ## Values by their scalars -/

/-- Every scalar in the value has a property, and so has every name in it, as a text. -/
inductive Json.Each (P : Scalar → Prop) : Json → Prop
  | scalar {s : Scalar} (h : P s) : Each P (.scalar s)
  | list {items : List Json} (hitems : ∀ x ∈ items, Each P x) : Each P (.list items)
  | object {members : List (String × Json)} (hnames : ∀ m ∈ members, P (.str m.1))
      (hmembers : ∀ m ∈ members, Each P m.2) : Each P (.object members)

namespace Json

variable {P : Scalar → Prop}

@[simp] lemma each_scalar_iff {s : Scalar} : (Json.scalar s).Each P ↔ P s :=
  ⟨fun | .scalar h => h, .scalar⟩

@[simp] lemma each_list_iff {items : List Json} :
    (Json.list items).Each P ↔ ∀ x ∈ items, x.Each P :=
  ⟨fun | .list h => h, .list⟩

@[simp] lemma each_object_iff {members : List (String × Json)} :
    (Json.object members).Each P ↔ ∀ m ∈ members, P (.str m.1) ∧ m.2.Each P :=
  ⟨fun | .object hnames hmembers => fun m hm => ⟨hnames m hm, hmembers m hm⟩,
    fun h => .object (fun m hm => (h m hm).1) fun m hm => (h m hm).2⟩

end Json

/-- The scalar is no double. -/
def Scalar.NoDouble : Scalar → Prop
  | .num _ => False
  | _ => True

/-- If the scalar is a text, it is one of characters. -/
def Scalar.TextWhole : Scalar → Prop
  | .str s => Whole s
  | _ => True

/-- If the scalar is a whole number, it can be read. -/
def Scalar.NumberShort : Scalar → Prop
  | .int n => Short n
  | _ => True

/-- **The values that are written faithfully**: the text tells all that there is to them. -/
structure Json.Faithful (v : Json) : Prop where
  distinct : v.Distinct
  numbers : v.Each Scalar.NoDouble
  texts : v.Each Scalar.TextWhole

namespace Json.Faithful

lemma of_list {items : List Json} (h : (Json.list items).Faithful) : ∀ x ∈ items, x.Faithful :=
  fun x hx => ⟨distinct_list_iff.mp h.distinct x hx, each_list_iff.mp h.numbers x hx,
    each_list_iff.mp h.texts x hx⟩

lemma of_object {members : List (String × Json)} (h : (Json.object members).Faithful) :
    ∀ m ∈ members, Whole m.1 ∧ m.2.Faithful :=
  fun m hm => ⟨(each_object_iff.mp h.texts m hm).1, (distinct_object_iff.mp h.distinct).2 m hm,
    (each_object_iff.mp h.numbers m hm).2, (each_object_iff.mp h.texts m hm).2⟩

end Json.Faithful

/-! ## Blanks -/

/-- The characters may all stand between tokens. -/
def Blank (cs : List Char) : Prop := ∀ c ∈ cs, isJsonSpace c = true

lemma Ends.mark {c : Char} {cs : List Char} (hc : c = ',' ∨ c = ']' ∨ c = '\x7d') :
    Ends (c :: cs) := by
  intro d hd
  obtain rfl := Option.some.inj hd
  exact Or.inr hc

lemma Ends.after_blank {gap cs : List Char} (hgap : Blank gap) (hcs : Ends cs) :
    Ends (gap ++ cs) := by
  cases gap with
  | nil => exact hcs
  | cons g gap =>
      intro c hc
      obtain rfl := Option.some.inj hc
      exact Or.inl (hgap g List.mem_cons_self)

/-- The style puts nothing but blanks between tokens. -/
structure Style.Spaced (style : Style) : Prop where
  bracket : ∀ depth, Blank (style.bracket depth)
  comma : ∀ depth, Blank (style.comma depth)

lemma blank_lineAt (depth : ℕ) : Blank (lineAt depth) := by
  refine List.forall_mem_cons.mpr ⟨rfl, fun c hc => ?_⟩
  rw [List.eq_of_mem_replicate hc]
  rfl

lemma spaced_indentedStyle : indentedStyle.Spaced := ⟨blank_lineAt, blank_lineAt⟩

lemma spaced_inlineStyle : inlineStyle.Spaced where
  bracket _ := List.forall_mem_nil _
  comma _ := by simp [inlineStyle, Blank, isJsonSpace]

/-- A token starts here. -/
def StartsToken (cs : List Char) : Prop := ∃ c more, cs = c :: more ∧ isJsonSpace c = false

lemma skipSpace_of_token {cs : List Char} (hcs : StartsToken cs) : skipSpace cs = cs := by
  obtain ⟨c, more, rfl, hc⟩ := hcs
  rw [skipSpace, List.dropWhile_cons_of_neg (by simp [hc])]

lemma skipSpace_append {gap cs : List Char} (hgap : Blank gap) (hcs : StartsToken cs) :
    skipSpace (gap ++ cs) = cs := by
  rw [skipSpace, List.dropWhile_append_of_pos hgap]
  exact skipSpace_of_token hcs

/-- The character may start a value: it is not blank, closes no list and marks no byte order. -/
def StartsValue (c : Char) : Prop := isJsonSpace c = false ∧ c ≠ ']' ∧ c ≠ Char.ofNat 0xfeff

instance : DecidablePred StartsValue := fun _ => inferInstanceAs (Decidable (_ ∧ _))

lemma startsValue_of_isDigit {c : Char} (h : c.isDigit = true) : StartsValue c := by
  refine ⟨?_, fun hc => ?_, fun hc => ?_⟩
  · rw [← Bool.not_eq_true]
    intro hspace
    simp only [isJsonSpace, Bool.or_eq_true, decide_eq_true_eq] at hspace
    rcases hspace with ((rfl | rfl) | rfl) | rfl <;> exact absurd h (by decide)
  · subst hc
    exact absurd h (by decide)
  · subst hc
    exact absurd h (by decide)

/-- The first character of a written value. -/
lemma exists_render (style : Style) (depth : ℕ) {v : Json} (hv : v.Each Scalar.NoDouble) :
    ∃ c cs, v.render style depth = c :: cs ∧ StartsValue c := by
  cases v with
  | list items =>
      cases items with
      | nil => exact ⟨'[', _, by rw [Json.render], by decide⟩
      | cons v vs => exact ⟨'[', _, by rw [Json.render]; rfl, by decide⟩
  | object members =>
      cases members with
      | nil => exact ⟨'\x7b', _, by rw [Json.render], by decide⟩
      | cons m ms => exact ⟨'\x7b', _, by rw [Json.render]; rfl, by decide⟩
  | scalar s =>
      rw [Json.render]
      cases s with
      | null => exact ⟨_, _, rfl, by decide⟩
      | bool b => cases b <;> exact ⟨_, _, rfl, by decide⟩
      | str s => exact ⟨_, _, rfl, by decide⟩
      | num x => exact (Json.each_scalar_iff.mp hv).elim
      | int n =>
          obtain ⟨c, cs, hcs, -⟩ := exists_toDigits n.natAbs
          have hc : c.isDigit = true := isDigit_toDigits (hcs ▸ List.mem_cons_self)
          rw [scalarChars, intChars, hcs]
          split_ifs
          · exact ⟨_, _, rfl, by decide⟩
          · exact ⟨c, cs, rfl, startsValue_of_isDigit hc⟩

lemma startsToken_render (style : Style) (depth : ℕ) {v : Json} (hv : v.Each Scalar.NoDouble)
    (cs : List Char) : StartsToken (v.render style depth ++ cs) := by
  obtain ⟨c, more, heq, hc⟩ := exists_render style depth hv
  exact ⟨c, more ++ cs, by rw [heq, List.cons_append], hc.1⟩

lemma startsToken_jsonString (s : String) (cs : List Char) : StartsToken (jsonString s ++ cs) :=
  ⟨'\x22', _, rfl, rfl⟩

/-! ## Lists and objects -/

lemma render_list_append (style : Style) (depth : ℕ) (v : Json) (vs : List Json)
    (rest : List Char) :
    (Json.list (v :: vs)).render style depth ++ rest
      = '[' :: (style.bracket (depth + 1) ++ (v.render style (depth + 1)
        ++ (Json.renderItems style (depth + 1) vs ++ (style.bracket depth ++ ']' :: rest)))) := by
  simp [Json.render]

lemma render_object_append (style : Style) (depth : ℕ) (m : String × Json)
    (ms : List (String × Json)) (rest : List Char) :
    (Json.object (m :: ms)).render style depth ++ rest
      = '\x7b' :: (style.bracket (depth + 1) ++ (jsonString m.1 ++ ':' :: ' ' ::
        (m.2.render style (depth + 1) ++ (Json.renderMembers style (depth + 1) ms
          ++ (style.bracket depth ++ '\x7d' :: rest))))) := by
  simp [Json.render]

lemma readValue_items {fuel : ℕ} {cs more : List Char} (h : skipSpace cs = more)
    (hmore : more.head? ≠ some ']') : readValue (fuel + 1) ('[' :: cs)
      = (readItems fuel more).map fun p => (.list p.1, p.2) := by
  rw [readValue, h]
  split
  · exact absurd rfl hmore
  · rfl

lemma readValue_members {fuel : ℕ} {cs more : List Char} {name : String}
    (h : skipSpace cs = jsonString name ++ more) :
    readValue (fuel + 1) ('\x7b' :: cs)
      = (readMembers fuel (jsonString name ++ more)).map fun p =>
        (.object (joinMembers p.1), p.2) := by
  rw [readValue, h]
  rfl

lemma readMembers_member (fuel : ℕ) {body name cs more : List Char}
    (hname : readString body body = .ok (name, cs)) (hcolon : skipSpace cs = ':' :: more) :
    readMembers (fuel + 1) ('\x22' :: body) = readValue fuel (skipSpace more) >>= fun p =>
      match skipSpace p.2 with
      | '\x7d' :: rest => .ok ([(String.ofList name, p.1)], rest)
      | ',' :: rest => readMembers fuel (skipSpace rest) >>= fun q =>
          .ok ((String.ofList name, p.1) :: q.1, q.2)
      | rest => refuse .comma rest := by
  rw [readMembers, hname, ok_bind]
  dsimp only
  rw [hcolon]
  rfl

lemma putMember_of_not_mem {name : String} {members : List (String × Json)}
    (h : name ∉ members.map Prod.fst) (v : Json) :
    putMember name v members = members ++ [(name, v)] := by
  induction members with
  | nil => rfl
  | cons m rest ih =>
      rw [List.map_cons, List.mem_cons, not_or] at h
      rw [putMember, if_neg (Ne.symm h.1), ih h.2]
      rfl

/-- Members with different names stay as they are. -/
lemma joinMembers_of_nodup {members : List (String × Json)}
    (h : (members.map Prod.fst).Nodup) : joinMembers members = members := by
  have hfold : ∀ ms seen : List (String × Json), ((seen ++ ms).map Prod.fst).Nodup →
      ms.foldl (fun ms m => putMember m.1 m.2 ms) seen = seen ++ ms := by
    intro ms
    induction ms with
    | nil => exact fun seen _ => (List.append_nil seen).symm
    | cons m rest ih =>
        intro seen hnodup
        have hnew : m.1 ∉ seen.map Prod.fst := by
          rw [List.map_append, List.map_cons] at hnodup
          intro hmem
          exact (List.nodup_append.mp hnodup).2.2 _ hmem _ List.mem_cons_self rfl
        rw [List.foldl_cons, putMember_of_not_mem hnew, ih, List.append_assoc]
        · rfl
        · rwa [List.append_assoc]
  exact hfold members [] h

/-! ## Reading back -/

/-- With this bound, the readers take what is written in the style. -/
structure ReadsBack (style : Style) (fuel : ℕ) : Prop where
  value : ∀ {v depth rest}, v.Faithful → Ends rest → (v.render style depth).length ≤ fuel →
    Takes (readValue fuel (v.render style depth ++ rest)) (v.Each Scalar.NumberShort) v rest
  items : ∀ {v vs depth gap rest}, (∀ x ∈ v :: vs, x.Faithful) → Blank gap →
    (v.render style depth ++ Json.renderItems style depth vs).length < fuel →
    Takes (readItems fuel
        (v.render style depth ++ (Json.renderItems style depth vs ++ (gap ++ ']' :: rest))))
      (∀ x ∈ v :: vs, x.Each Scalar.NumberShort) (v :: vs) rest
  members : ∀ {m ms depth gap rest}, (∀ m' ∈ m :: ms, Whole m'.1 ∧ m'.2.Faithful) → Blank gap →
    (m.2.render style depth ++ Json.renderMembers style depth ms).length < fuel →
    Takes (readMembers fuel (jsonString m.1 ++ ':' :: ' ' :: (m.2.render style depth
        ++ (Json.renderMembers style depth ms ++ (gap ++ '\x7d' :: rest)))))
      (∀ m' ∈ m :: ms, m'.2.Each Scalar.NumberShort) (m :: ms) rest

namespace ReadsBack

variable {style : Style} {fuel : ℕ} {depth : ℕ} {rest : List Char}

lemma takes_scalar {s : Scalar} (hv : (Json.scalar s).Faithful) (hrest : Ends rest) :
    Takes (readValue (fuel + 1) (scalarChars s ++ rest)) ((Json.scalar s).Each Scalar.NumberShort)
      (.scalar s) rest := by
  rw [Json.each_scalar_iff]
  cases s with
  | null => exact .of_ok trivial rfl
  | bool b => cases b <;> exact .of_ok trivial rfl
  | num x => exact (Json.each_scalar_iff.mp hv.numbers).elim
  | int n =>
      rw [scalarChars, readValue_intChars]
      exact (takes_intChars n hrest).map Json.scalar
  | str s =>
      obtain ⟨body, hbody, hread⟩ := readString_escapeJson (Json.each_scalar_iff.mp hv.texts) rest
      rw [scalarChars, hbody]
      refine .of_ok trivial ?_
      change (readString body body).map _ = _
      rw [hread]
      exact congrArg (fun t => Except.ok (Json.str t, rest)) String.ofList_toList

/-- What follows an item ends it. -/
lemma ends_items {vs : List Json} {gap : List Char} (hgap : Blank gap) :
    Ends (Json.renderItems style depth vs ++ (gap ++ ']' :: rest)) := by
  cases vs with
  | cons v vs =>
      rw [Json.renderItems]
      exact .mark (by simp)
  | nil =>
      rw [Json.renderItems, List.nil_append]
      exact .after_blank hgap (.mark (by simp))

lemma readItems_succ (hstyle : style.Spaced) (ih : ReadsBack style fuel) {v : Json} {vs : List Json}
    {gap : List Char} (hvs : ∀ x ∈ v :: vs, x.Faithful) (hgap : Blank gap)
    (hfuel : (v.render style depth ++ Json.renderItems style depth vs).length < fuel + 1) :
    Takes (readItems (fuel + 1)
        (v.render style depth ++ (Json.renderItems style depth vs ++ (gap ++ ']' :: rest))))
      (∀ x ∈ v :: vs, x.Each Scalar.NumberShort) (v :: vs) rest := by
  rw [List.length_append] at hfuel
  rw [List.forall_mem_cons] at hvs
  have hlength : (v.render style depth).length ≤ fuel := by omega
  have hends : Ends (Json.renderItems style depth vs ++ (gap ++ ']' :: rest)) := ends_items hgap
  rw [readItems.eq_def, List.forall_mem_cons]
  refine (ih.value hvs.1 hends hlength).bind ?_
  cases vs with
  | nil =>
      simp only [Json.renderItems, List.nil_append]
      rw [skipSpace_append hgap ⟨']', rest, rfl, rfl⟩]
      exact .of_ok (by simp) rfl
  | cons w ws =>
      rw [Json.renderItems] at hfuel ⊢
      change Takes (readItems fuel (skipSpace (style.comma depth ++ w.render style depth
        ++ Json.renderItems style depth ws ++ (gap ++ ']' :: rest))) >>= fun p =>
          .ok (v :: p.1, p.2)) _ _ _
      rw [List.append_assoc, List.append_assoc, skipSpace_append (hstyle.comma depth)
        (startsToken_render style depth (hvs.2 w List.mem_cons_self).numbers _)]
      have hlength' : (w.render style depth ++ Json.renderItems style depth ws).length < fuel := by
        simp only [List.length_append, List.length_cons] at hfuel ⊢
        omega
      exact (ih.items hvs.2 hgap hlength').bind_ok (v :: ·)

/-- What follows a member ends it. -/
lemma ends_members {ms : List (String × Json)} {gap : List Char} (hgap : Blank gap) :
    Ends (Json.renderMembers style depth ms ++ (gap ++ '\x7d' :: rest)) := by
  cases ms with
  | cons m ms =>
      rw [Json.renderMembers]
      exact .mark (by simp)
  | nil =>
      rw [Json.renderMembers, List.nil_append]
      exact .after_blank hgap (.mark (by simp))

lemma readMembers_succ (hstyle : style.Spaced) (ih : ReadsBack style fuel) {m : String × Json}
    {ms : List (String × Json)} {gap : List Char}
    (hms : ∀ m' ∈ m :: ms, Whole m'.1 ∧ m'.2.Faithful) (hgap : Blank gap)
    (hfuel : (m.2.render style depth ++ Json.renderMembers style depth ms).length < fuel + 1) :
    Takes (readMembers (fuel + 1) (jsonString m.1 ++ ':' :: ' ' :: (m.2.render style depth
        ++ (Json.renderMembers style depth ms ++ (gap ++ '\x7d' :: rest)))))
      (∀ m' ∈ m :: ms, m'.2.Each Scalar.NumberShort) (m :: ms) rest := by
  obtain ⟨name, v⟩ := m
  rw [List.length_append] at hfuel
  rw [List.forall_mem_cons] at hms
  have hlength : (v.render style depth).length ≤ fuel := by dsimp only at hfuel; omega
  have hends : Ends (Json.renderMembers style depth ms ++ (gap ++ '\x7d' :: rest)) :=
    ends_members hgap
  obtain ⟨body, hbody, hread⟩ := readString_escapeJson hms.1.1 (':' :: ' ' :: (v.render style depth
    ++ (Json.renderMembers style depth ms ++ (gap ++ '\x7d' :: rest))))
  have hblank : ∀ cs, skipSpace (' ' :: cs) = skipSpace cs := fun _ => rfl
  rw [hbody, readMembers_member fuel hread rfl, hblank,
    skipSpace_of_token (startsToken_render style depth hms.1.2.numbers _), List.forall_mem_cons]
  refine (ih.value hms.1.2 hends hlength).bind ?_
  dsimp only
  rw [String.ofList_toList]
  cases ms with
  | nil =>
      simp only [Json.renderMembers, List.nil_append]
      rw [skipSpace_append hgap ⟨'\x7d', rest, rfl, rfl⟩]
      exact .of_ok (by simp) rfl
  | cons w ws =>
      rw [Json.renderMembers] at hfuel ⊢
      have hlength' :
          (w.2.render style depth ++ Json.renderMembers style depth ws).length < fuel := by
        simp only [List.length_append, List.length_cons] at hfuel ⊢
        omega
      change Takes (readMembers fuel (skipSpace (style.comma depth ++ jsonString w.1 ++ [':', ' ']
        ++ w.2.render style depth ++ Json.renderMembers style depth ws ++ (gap ++ '\x7d' :: rest)))
          >>= fun p => .ok ((name, v) :: p.1, p.2)) _ _ _
      simp only [List.append_assoc]
      rw [skipSpace_append (hstyle.comma depth) (startsToken_jsonString w.1 _)]
      exact (ih.members hms.2 hgap hlength').bind_ok ((name, v) :: ·)

lemma readValue_succ (hstyle : style.Spaced) (ih : ReadsBack style fuel) {v : Json}
    (hv : v.Faithful) (hrest : Ends rest) (hfuel : (v.render style depth).length ≤ fuel + 1) :
    Takes (readValue (fuel + 1) (v.render style depth ++ rest)) (v.Each Scalar.NumberShort) v
      rest := by
  cases v with
  | scalar s =>
      rw [Json.render]
      exact takes_scalar hv hrest
  | list items =>
      rw [Json.each_list_iff]
      cases items with
      | nil =>
          rw [Json.render]
          exact .of_ok (List.forall_mem_nil _) rfl
      | cons v vs =>
          have hitems := hv.of_list
          obtain ⟨c, cs, hcs, hstart⟩ := exists_render style (depth + 1)
            (hitems v List.mem_cons_self).numbers
          have hskip := skipSpace_append (hstyle.bracket (depth + 1))
            (startsToken_render style (depth + 1) (hitems v List.mem_cons_self).numbers
              (Json.renderItems style (depth + 1) vs ++ (style.bracket depth ++ ']' :: rest)))
          have hlength : (v.render style (depth + 1)
              ++ Json.renderItems style (depth + 1) vs).length < fuel := by
            rw [Json.render] at hfuel
            simp only [List.length_append, List.length_cons] at hfuel ⊢
            omega
          have hopen : (v.render style (depth + 1) ++ (Json.renderItems style (depth + 1) vs
              ++ (style.bracket depth ++ ']' :: rest))).head? ≠ some ']' := by
            rw [hcs, List.cons_append, List.head?_cons, ne_eq, Option.some.injEq]
            exact hstart.2.1
          rw [render_list_append, readValue_items hskip hopen]
          exact (ih.items hitems (hstyle.bracket depth) hlength).map Json.list
  | object members =>
      rw [Json.each_object_iff]
      cases members with
      | nil =>
          rw [Json.render]
          exact .of_ok (List.forall_mem_nil _) rfl
      | cons m ms =>
          have hmembers := hv.of_object
          have hskip := skipSpace_append (hstyle.bracket (depth + 1)) (startsToken_jsonString m.1
            (':' :: ' ' :: (m.2.render style (depth + 1) ++ (Json.renderMembers style (depth + 1) ms
              ++ (style.bracket depth ++ '\x7d' :: rest)))))
          have hlength : (m.2.render style (depth + 1)
              ++ Json.renderMembers style (depth + 1) ms).length < fuel := by
            rw [Json.render] at hfuel
            simp only [List.length_append, List.length_cons] at hfuel ⊢
            omega
          have hjoin : Json.object (m :: ms) = Json.object (joinMembers (m :: ms)) := by
            rw [joinMembers_of_nodup (Json.distinct_object_iff.mp hv.distinct).1]
          rw [render_object_append, readValue_members hskip, hjoin]
          exact ((ih.members hmembers (hstyle.bracket depth) hlength).map
            fun ms => Json.object (joinMembers ms)).congr
              (forall₂_congr fun _ _ => (and_iff_right trivial).symm)

end ReadsBack

/-- **Readers take what is written.** -/
theorem readsBack {style : Style} (hstyle : style.Spaced) (fuel : ℕ) : ReadsBack style fuel := by
  induction fuel with
  | zero =>
      constructor
      · intro v depth rest hv _ hfuel
        obtain ⟨c, cs, hcs, -⟩ := exists_render style depth hv.numbers
        rw [hcs] at hfuel
        exact absurd hfuel (by simp)
      · exact fun _ _ hfuel => absurd hfuel (Nat.not_lt_zero _)
      · exact fun _ _ hfuel => absurd hfuel (Nat.not_lt_zero _)
  | succ fuel ih =>
      exact ⟨ReadsBack.readValue_succ hstyle ih, ReadsBack.readItems_succ hstyle ih,
        ReadsBack.readMembers_succ hstyle ih⟩

/-! ## Whole texts -/

/-- **The text of a value is read as that value**, unless a number in it has too many digits to be
read; then the text is refused for that. -/
theorem decode_render {style : Style} (hstyle : style.Spaced) {v : Json} (hv : v.Faithful) :
    (v.Each Scalar.NumberShort → Json.decode (v.render style 0) = .ok v)
      ∧ (¬ v.Each Scalar.NumberShort →
        ∃ f, Json.decode (v.render style 0) = .error f ∧ f.isLongWhole = true) := by
  obtain ⟨c, cs, hcs, hstart⟩ := exists_render style 0 hv.numbers
  have hlength : (v.render style 0).length ≤ 2 * (v.render style 0).length + 2 := by omega
  have hends : Ends [] := nofun
  have hread := (readsBack hstyle _).value hv hends hlength
  have hskip : skipSpace (v.render style 0) = v.render style 0 :=
    skipSpace_of_token ⟨c, cs, hcs, hstart.1⟩
  have htext : readText (v.render style 0) = readText.readWholeText (v.render style 0) := by
    rw [hcs, readText, if_neg hstart.2.2]
  rw [List.append_nil] at hread
  constructor
  · intro hshort
    rw [Json.decode, htext, readText.readWholeText, hskip, hread.taken hshort]
    rfl
  · intro hlong
    obtain ⟨n, left, herror⟩ := hread.long hlong
    rw [Json.decode, htext, readText.readWholeText, hskip, herror]
    exact ⟨_, rfl, rfl⟩

end DashboardSurvey
