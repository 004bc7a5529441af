import DashboardSurvey.Proofs.RoundTrip
import DashboardSurvey.Text.Utf8
import Mathlib.Data.Bool.AllAny

/-!
# The grammar of JSON

What the standard calls a JSON text, apart from any reader.  A part of a text is described from where
it starts down to what follows it.  The standard has no names for doubles that are not finite, and
none of these names occurs outside the strings of such a text.

* `Standard.Gap`, `Standard.Quote`, `Standard.Numeral` — blanks, strings and numbers.
* `Standard.Phrase` — values, the items of a list and the members of an object.
* `Standard.Document`, `Standard` — whole texts, with a condition on their numerals and without.
* `bare`, **`Standard.Document.bare`** — the characters outside strings, and what is not among them.
* **`Standard.Document.unifyNewlines`** — a text is as good with its line ends unified.
-/

namespace DashboardSurvey

namespace Standard

/-! ## Tokens -/

/-- Blanks, from a text down to what follows them. -/
inductive Gap : List Char → List Char → Prop
  | none {rest : List Char} : Gap rest rest
  | blank {c : Char} {cs rest : List Char} (hc : isJsonSpace c = true) (h : Gap cs rest) :
      Gap (c :: cs) rest

/-- The letters that stand after a backslash for a single character. -/
def letters : List Char := ['\x22', '\\', '/', 'b', 'f', 'n', 'r', 't']

/-- The digits in base sixteen. -/
def hexChars : List Char := "0123456789abcdefABCDEF".toList

/-- A string after its opening quotation mark, down to what follows the closing one. -/
inductive Quote : List Char → List Char → Prop
  | close {rest : List Char} : Quote ('\x22' :: rest) rest
  | plain {c : Char} {cs rest : List Char} (hc : ' ' ≤ c) (hquote : c ≠ '\x22') (hslash : c ≠ '\\')
      (h : Quote cs rest) : Quote (c :: cs) rest
  | letter {c : Char} {cs rest : List Char} (hc : c ∈ letters) (h : Quote cs rest) :
      Quote ('\\' :: c :: cs) rest
  | code {c₁ c₂ c₃ c₄ : Char} {cs rest : List Char} (hc : ∀ c ∈ [c₁, c₂, c₃, c₄], c ∈ hexChars)
      (h : Quote cs rest) : Quote ('\\' :: 'u' :: c₁ :: c₂ :: c₃ :: c₄ :: cs) rest

/-- The exponent of a numeral. -/
structure Exponent where
  mark : Char
  sign : List Char
  digits : List Char
  mark_mem : mark = 'e' ∨ mark = 'E'
  sign_mem : sign = [] ∨ sign = ['+'] ∨ sign = ['-']
  digits_ne : digits ≠ []
  isDigit : ∀ c ∈ digits, c.isDigit = true

/-- How an exponent is written. -/
def Exponent.chars (e : Exponent) : List Char := e.mark :: (e.sign ++ e.digits)

/-- The power of ten that an exponent means. -/
def Exponent.power (e : Exponent) : Int :=
  Binary64.signed (e.sign == ['-']) (digitsValue e.digits)

/-- A number as it is written: no digit stands after a zero at the front.  Without a point there is
no fraction, and it has no digits. -/
structure Numeral where
  negative : Bool
  whole : List Char
  fraction : List Char
  exponent : Option Exponent
  whole_ne : whole ≠ []
  whole_isDigit : ∀ c ∈ whole, c.isDigit = true
  whole_zero : whole.head? = some '0' → whole = ['0']
  fraction_isDigit : ∀ c ∈ fraction, c.isDigit = true

namespace Numeral

/-- How the fraction is written, with its point. -/
def fractionChars (n : Numeral) : List Char := if n.fraction = [] then [] else '.' :: n.fraction

/-- How the exponent is written, if there is one. -/
def exponentChars (n : Numeral) : List Char := (n.exponent.map Exponent.chars).getD []

/-- How the number is written. -/
def chars (n : Numeral) : List Char :=
  (if n.negative then ['-'] else []) ++ (n.whole ++ (n.fractionChars ++ n.exponentChars))

/-- Does the numeral write a whole number, with neither fraction nor exponent? -/
def IsWhole (n : Numeral) : Prop := n.fraction = [] ∧ n.exponent = none

instance (n : Numeral) : Decidable n.IsWhole :=
  decidable_of_iff (n.fraction.isEmpty = true ∧ n.exponent.isNone = true) (by simp [IsWhole])

/-- The magnitude of the number. -/
def decimal (n : Numeral) : Decimal :=
  ⟨digitsValue (n.whole ++ n.fraction), (n.exponent.map Exponent.power).getD 0 - n.fraction.length⟩

/-- The characters of numerals. -/
lemma mem_chars {n : Numeral} {c : Char} (hc : c ∈ n.chars) :
    c.isDigit = true ∨ c ∈ ['-', '+', '.', 'e', 'E'] := by
  have hexponent : ∀ e : Exponent, c ∈ e.chars →
      c.isDigit = true ∨ c ∈ ['-', '+', '.', 'e', 'E'] := by
    intro e hc
    rw [Exponent.chars, List.mem_cons, List.mem_append] at hc
    rcases hc with rfl | hc | hc
    · rcases e.mark_mem with h | h <;> simp [h]
    · rcases e.sign_mem with h | h | h <;> simp_all
    · exact Or.inl (e.isDigit c hc)
  rw [chars, List.mem_append, List.mem_append, List.mem_append] at hc
  rcases hc with hc | hc | hc | hc
  · split_ifs at hc <;> simp_all
  · exact Or.inl (n.whole_isDigit c hc)
  · rw [fractionChars] at hc
    split_ifs at hc
    · cases hc
    · rcases List.mem_cons.mp hc with rfl | hc
      · simp
      · exact Or.inl (n.fraction_isDigit c hc)
  · rw [exponentChars] at hc
    cases he : n.exponent with
    | none => simp [he] at hc
    | some e =>
        rw [he] at hc
        exact hexponent e hc

end Numeral

/-! ## Values -/

/-- The parts that a text has: a value, or what stands in a list or object, with its closing
bracket. -/
inductive Part where
  | value
  | items
  | members

/-- **The grammar.**  A part of a text, down to what follows it; the condition is on numerals. -/
inductive Phrase (N : Numeral → Prop) : Part → List Char → List Char → Prop
  | null {rest : List Char} : Phrase N .value ('n' :: 'u' :: 'l' :: 'l' :: rest) rest
  | yes {rest : List Char} : Phrase N .value ('t' :: 'r' :: 'u' :: 'e' :: rest) rest
  | no {rest : List Char} : Phrase N .value ('f' :: 'a' :: 'l' :: 's' :: 'e' :: rest) rest
  | number (n : Numeral) (h : N n) {rest : List Char} : Phrase N .value (n.chars ++ rest) rest
  | text {cs rest : List Char} (h : Quote cs rest) : Phrase N .value ('\x22' :: cs) rest
  | emptyList {cs rest : List Char} (h : Gap cs (']' :: rest)) : Phrase N .value ('[' :: cs) rest
  | list {cs ds rest : List Char} (hgap : Gap cs ds) (h : Phrase N .items ds rest) :
      Phrase N .value ('[' :: cs) rest
  | emptyObject {cs rest : List Char} (h : Gap cs ('\x7d' :: rest)) :
      Phrase N .value ('\x7b' :: cs) rest
  | object {cs ds rest : List Char} (hgap : Gap cs ds) (h : Phrase N .members ds rest) :
      Phrase N .value ('\x7b' :: cs) rest
  | lastItem {cs ds rest : List Char} (hv : Phrase N .value cs ds) (hend : Gap ds (']' :: rest)) :
      Phrase N .items cs rest
  | item {cs ds es fs rest : List Char} (hv : Phrase N .value cs ds) (hcomma : Gap ds (',' :: es))
      (hgap : Gap es fs) (h : Phrase N .items fs rest) : Phrase N .items cs rest
  | lastMember {cs ds es fs gs rest : List Char} (hname : Quote cs ds) (hcolon : Gap ds (':' :: es))
      (hgap : Gap es fs) (hv : Phrase N .value fs gs) (hend : Gap gs ('\x7d' :: rest)) :
      Phrase N .members ('\x22' :: cs) rest
  | member {cs ds es fs gs hs is rest : List Char} (hname : Quote cs ds)
      (hcolon : Gap ds (':' :: es)) (hgap : Gap es fs) (hv : Phrase N .value fs gs)
      (hcomma : Gap gs (',' :: hs)) (hgap' : Gap hs is) (h : Phrase N .members is rest) :
      Phrase N .members ('\x22' :: cs) rest

/-- A text that holds one value, with a condition on its numerals. -/
def Document (N : Numeral → Prop) (cs : List Char) : Prop :=
  ∃ ds es, Gap cs ds ∧ Phrase N .value ds es ∧ Gap es []

end Standard

/-- **A JSON text** by the standard. -/
def Standard (cs : List Char) : Prop := Standard.Document (fun _ => True) cs

namespace Standard

variable {N : Numeral → Prop} {p : Part} {cs ds rest : List Char}

/-- The first character of a part. -/
lemma Phrase.startsValue (h : Phrase N p cs rest) : ∃ c more, cs = c :: more ∧ StartsValue c := by
  induction h with
  | null => exact ⟨_, _, rfl, by decide⟩
  | yes => exact ⟨_, _, rfl, by decide⟩
  | no => exact ⟨_, _, rfl, by decide⟩
  | number n h =>
      obtain ⟨c, more, hwhole⟩ := List.exists_cons_of_ne_nil n.whole_ne
      have hc : c.isDigit = true := n.whole_isDigit c (hwhole ▸ List.mem_cons_self)
      rw [Numeral.chars, hwhole]
      cases n.negative with
      | true => exact ⟨_, _, rfl, by decide⟩
      | false => exact ⟨_, _, rfl, startsValue_of_isDigit hc⟩
  | text h => exact ⟨_, _, rfl, by decide⟩
  | emptyList h => exact ⟨_, _, rfl, by decide⟩
  | list _ _ _ => exact ⟨_, _, rfl, by decide⟩
  | emptyObject h => exact ⟨_, _, rfl, by decide⟩
  | object _ _ _ => exact ⟨_, _, rfl, by decide⟩
  | lastItem _ _ ih => exact ih
  | item _ _ _ _ ih _ => exact ih
  | lastMember _ _ _ _ _ _ => exact ⟨_, _, rfl, by decide⟩
  | member _ _ _ _ _ _ _ _ _ => exact ⟨_, _, rfl, by decide⟩

end Standard

/-! ## Outside strings -/

/-- The characters of a text that stand outside its strings; the flag tells whether the text starts
inside one. -/
def bare : Bool → List Char → List Char
  | _, [] => []
  | false, c :: cs => if c = '\x22' then bare true cs else c :: bare false cs
  | true, [_] => []
  | true, c :: d :: cs =>
    if c = '\x22' then bare false (d :: cs)
    else if c = '\\' then bare true cs
    else bare true (d :: cs)

/-- The characters with which the names of doubles that are not finite start, but for a sign. -/
def nameStarts : List Char := ['N', 'I']

section Bare

lemma bare_quote (inside : Bool) (cs : List Char) :
    bare inside ('\x22' :: cs) = bare (!inside) cs := by
  cases inside with
  | false => rw [bare, if_pos rfl]; rfl
  | true =>
      cases cs with
      | nil => rfl
      | cons d cs => rw [bare, if_pos rfl]; rfl

lemma bare_true_escape (c : Char) (cs : List Char) : bare true ('\\' :: c :: cs) = bare true cs := by
  rw [bare, if_neg (by decide), if_pos rfl]

lemma bare_true_cons {c : Char} (hquote : c ≠ '\x22') (hslash : c ≠ '\\') (cs : List Char) :
    bare true (c :: cs) = bare true cs := by
  cases cs with
  | nil => rfl
  | cons d cs => rw [bare, if_neg hquote, if_neg hslash]

/-- Characters other than quotation marks stay outside strings. -/
lemma bare_append {cs : List Char} (hcs : '\x22' ∉ cs) (rest : List Char) :
    bare false (cs ++ rest) = cs ++ bare false rest := by
  induction cs with
  | nil => rfl
  | cons c cs ih =>
      rw [List.mem_cons, not_or] at hcs
      rw [List.cons_append, bare, if_neg (Ne.symm hcs.1), ih hcs.2, List.cons_append]

end Bare

/-- From a text down to what follows, a name starts outside strings exactly under the condition. -/
def Names (p : Prop) (cs rest : List Char) : Prop :=
  ∃ ds, bare false cs = ds ++ bare false rest ∧ ((∃ c ∈ ds, c ∈ nameStarts) ↔ p)

namespace Names

variable {p q : Prop} {cs ds rest : List Char}

lemma refl (cs : List Char) : Names False cs cs := ⟨[], rfl, by simp⟩

lemma congr (h : Names p cs rest) (hpq : p ↔ q) : Names q cs rest := by
  obtain ⟨ds, hds, hname⟩ := h
  exact ⟨ds, hds, hname.trans hpq⟩

lemma trans (h : Names p cs ds) (h' : Names q ds rest) : Names (p ∨ q) cs rest := by
  obtain ⟨as, has, hname⟩ := h
  obtain ⟨bs, hbs, hname'⟩ := h'
  refine ⟨as ++ bs, by rw [has, hbs, List.append_assoc], ?_⟩
  rw [← hname, ← hname']
  simp [or_and_right, exists_or]

/-- What names nothing may stand before it. -/
lemma after (h : Names p ds rest) (hcs : Names False cs ds) : Names p cs rest :=
  (hcs.trans h).congr (iff_of_eq (false_or p))

lemma append (hquote : '\x22' ∉ cs) (rest : List Char) :
    Names (∃ c ∈ cs, c ∈ nameStarts) (cs ++ rest) rest :=
  ⟨cs, bare_append hquote rest, Iff.rfl⟩

lemma append_of_not_mem (cs : List Char) (hcs : ∀ c ∈ cs, c ∉ '\x22' :: nameStarts)
    (rest : List Char) : Names False (cs ++ rest) rest := by
  refine (append (fun h => hcs _ h List.mem_cons_self) rest).congr (iff_of_false ?_ id)
  rintro ⟨c, hc, hstart⟩
  exact hcs c hc (List.mem_cons_of_mem _ hstart)

lemma cons (c : Char) (hc : c ∉ '\x22' :: nameStarts) (h : Names p cs rest) :
    Names p (c :: cs) rest :=
  h.after (append_of_not_mem [c] (List.forall_mem_singleton.mpr hc) cs)

end Names

namespace Standard

variable {N : Numeral → Prop} {p : Part} {cs rest : List Char}

lemma Gap.names (h : Gap cs rest) : Names False cs rest := by
  induction h with
  | none => exact .refl _
  | blank hc _ ih =>
      refine .cons _ (fun hmem => ?_) ih
      simp only [nameStarts, List.mem_cons, List.not_mem_nil, or_false] at hmem
      rcases hmem with rfl | rfl | rfl <;> exact absurd hc (by decide)

lemma Quote.bare (h : Quote cs rest) : bare true cs = bare false rest := by
  induction h with
  | close => exact bare_quote true _
  | plain _ hquote hslash _ ih => rw [bare_true_cons hquote hslash, ih]
  | letter _ _ ih => rw [bare_true_escape, ih]
  | code hc _ ih =>
      -- a digit is neither a quotation mark nor a backslash
      have hdigit : ∀ c ∈ hexChars, c ≠ '\x22' ∧ c ≠ '\\' :=
        List.all_iff_forall_prop.mp (by decide)
      have hplain : ∀ c ∈ hexChars, ∀ cs, DashboardSurvey.bare true (c :: cs)
          = DashboardSurvey.bare true cs :=
        fun c hc => bare_true_cons (hdigit c hc).1 (hdigit c hc).2
      simp only [List.forall_mem_cons] at hc
      rw [bare_true_escape, hplain _ hc.1, hplain _ hc.2.1, hplain _ hc.2.2.1, hplain _ hc.2.2.2.1,
        ih]

lemma Quote.names (h : Quote cs rest) : Names False ('\x22' :: cs) rest :=
  ⟨[], (bare_quote false cs).trans h.bare, by simp⟩

lemma Numeral.names (n : Numeral) (rest : List Char) : Names False (n.chars ++ rest) rest := by
  have hno : ∀ c ∈ '\x22' :: nameStarts,
      ¬ (c.isDigit = true ∨ c ∈ ['-', '+', '.', 'e', 'E']) :=
    List.all_iff_forall_prop.mp (by decide)
  exact .append_of_not_mem _ (fun c hc hmem => hno c hmem (mem_chars hc)) rest

lemma Phrase.names (h : Phrase N p cs rest) : Names False cs rest := by
  -- a mark that is no quotation mark, after a gap
  have hmark : ∀ {cs rest : List Char} (c : Char), c ∉ '\x22' :: nameStarts →
      Gap cs (c :: rest) → Names False cs rest :=
    fun c hc hgap => ((Names.refl _).cons c hc).after hgap.names
  induction h with
  | null => exact .append_of_not_mem "null".toList (List.all_iff_forall_prop.mp (by decide)) _
  | yes => exact .append_of_not_mem "true".toList (List.all_iff_forall_prop.mp (by decide)) _
  | no => exact .append_of_not_mem "false".toList (List.all_iff_forall_prop.mp (by decide)) _
  | number n h => exact n.names _
  | text h => exact h.names
  | emptyList h => exact (hmark ']' (by decide) h).cons '[' (by decide)
  | list hgap _ ih => exact (ih.after hgap.names).cons '[' (by decide)
  | emptyObject h => exact (hmark '\x7d' (by decide) h).cons '\x7b' (by decide)
  | object hgap _ ih => exact (ih.after hgap.names).cons '\x7b' (by decide)
  | lastItem _ hend ih => exact (hmark ']' (by decide) hend).after ih
  | item _ hcomma hgap _ ihv ih =>
      exact ((ih.after hgap.names).after (hmark ',' (by decide) hcomma)).after ihv
  | lastMember hname hcolon hgap _ hend ih =>
      have hvalue := ((hmark '\x7d' (by decide) hend).after ih).after hgap.names
      exact (hvalue.after (hmark ':' (by decide) hcolon)).after hname.names
  | member hname hcolon hgap _ hcomma hgap' _ ihv ih =>
      have hrest := (ih.after hgap'.names).after (hmark ',' (by decide) hcomma)
      have hvalue := (hrest.after ihv).after hgap.names
      exact (hvalue.after (hmark ':' (by decide) hcolon)).after hname.names

/-- **Outside the strings** of a text no name of a double that is not finite starts. -/
theorem Document.bare (h : Document N cs) : ∀ c ∈ bare false cs, c ∉ nameStarts := by
  obtain ⟨ds, es, hds, hv, hes⟩ := h
  obtain ⟨as, has, hnames⟩ := (hes.names.after hv.names).after hds.names
  rw [has]
  exact List.forall_mem_append.mpr
    ⟨fun c hc hstart => hnames.mp ⟨c, hc, hstart⟩, List.forall_mem_nil _⟩

example : bare false "[\x22NaN\x22, 1e309]".toList = "[, 1e309]".toList := by decide

/-! ## Line ends -/

/-- A carriage return before a line feed is taken away, and one blank less is still a gap. -/
lemma Gap.unifyNewlines (h : Gap cs rest) : Gap (unifyNewlines cs) (unifyNewlines rest) := by
  induction h with
  | none => exact .none
  | @blank c cs rest hc _ ih =>
      rw [DashboardSurvey.unifyNewlines.eq_def]
      split
      · rename_i heq
        cases heq
      · rename_i heq
        obtain ⟨-, rfl⟩ := List.cons.inj heq
        rwa [unifyNewlines_cons (by decide)] at ih
      · rename_i heq
        obtain ⟨rfl, rfl⟩ := List.cons.inj heq
        split_ifs
        · exact .blank rfl ih
        · exact .blank hc ih

lemma Quote.unifyNewlines (h : Quote cs rest) : Quote (unifyNewlines cs) (unifyNewlines rest) := by
  have hline : ∀ c ∈ letters ++ hexChars, c ≠ '\r' := List.all_iff_forall_prop.mp (by decide)
  rw [List.forall_mem_append] at hline
  induction h with
  | close =>
      rw [unifyNewlines_cons (by decide)]
      exact .close
  | plain hc hquote hslash _ ih =>
      rw [unifyNewlines_cons (by rintro rfl; exact absurd hc (by decide))]
      exact .plain hc hquote hslash ih
  | letter hc _ ih =>
      rw [unifyNewlines_cons (by decide), unifyNewlines_cons (hline.1 _ hc)]
      exact .letter hc ih
  | @code c₁ c₂ c₃ c₄ cs rest hc _ ih =>
      have hfour : '\r' ∉ ['\\', 'u', c₁, c₂, c₃, c₄] := by
        intro hmem
        rcases List.mem_cons.mp hmem with h | hmem
        · exact absurd h (by decide)
        rcases List.mem_cons.mp hmem with h | hmem
        · exact absurd h (by decide)
        · exact hline.2 _ (hc _ hmem) rfl
      exact unifyNewlines_append _ hfour cs ▸ .code hc ih

lemma Numeral.unifyNewlines (n : Numeral) (rest : List Char) :
    unifyNewlines (n.chars ++ rest) = n.chars ++ unifyNewlines rest :=
  unifyNewlines_append _ (fun h => absurd (mem_chars h) (by decide)) rest

lemma Phrase.unifyNewlines (h : Phrase N p cs rest) :
    Phrase N p (unifyNewlines cs) (unifyNewlines rest) := by
  -- what a gap comes down to starts with a mark, which stays
  have hmark : ∀ {c cs ds}, c ≠ '\r' → Gap cs (c :: ds) →
      Gap (DashboardSurvey.unifyNewlines cs) (c :: DashboardSurvey.unifyNewlines ds) :=
    fun hc h => unifyNewlines_cons hc _ ▸ h.unifyNewlines
  induction h with
  | null => exact unifyNewlines_append ['n', 'u', 'l', 'l'] (by decide) _ ▸ .null
  | yes => exact unifyNewlines_append ['t', 'r', 'u', 'e'] (by decide) _ ▸ .yes
  | no => exact unifyNewlines_append ['f', 'a', 'l', 's', 'e'] (by decide) _ ▸ .no
  | number n h => exact n.unifyNewlines _ ▸ .number n h
  | text h =>
      rw [unifyNewlines_cons (by decide)]
      exact .text h.unifyNewlines
  | emptyList h =>
      rw [unifyNewlines_cons (by decide)]
      exact .emptyList (hmark (by decide) h)
  | list hgap _ ih =>
      rw [unifyNewlines_cons (by decide)]
      exact .list hgap.unifyNewlines ih
  | emptyObject h =>
      rw [unifyNewlines_cons (by decide)]
      exact .emptyObject (hmark (by decide) h)
  | object hgap _ ih =>
      rw [unifyNewlines_cons (by decide)]
      exact .object hgap.unifyNewlines ih
  | lastItem _ hend ih => exact .lastItem ih (hmark (by decide) hend)
  | item _ hcomma hgap _ ihv ih =>
      exact .item ihv (hmark (by decide) hcomma) hgap.unifyNewlines ih
  | lastMember hname hcolon hgap _ hend ih =>
      rw [unifyNewlines_cons (by decide)]
      exact .lastMember hname.unifyNewlines (hmark (by decide) hcolon) hgap.unifyNewlines ih
        (hmark (by decide) hend)
  | member hname hcolon hgap _ hcomma hgap' _ ihv ih =>
      rw [unifyNewlines_cons (by decide)]
      exact .member hname.unifyNewlines (hmark (by decide) hcolon) hgap.unifyNewlines ihv
        (hmark (by decide) hcomma) hgap'.unifyNewlines ih

/-- **Line ends** may be unified in a text. -/
theorem Document.unifyNewlines (h : Document N cs) : Document N (unifyNewlines cs) := by
  obtain ⟨ds, es, hds, hv, hes⟩ := h
  exact ⟨_, _, hds.unifyNewlines, hv.unifyNewlines, hes.unifyNewlines⟩

end Standard

end DashboardSurvey
