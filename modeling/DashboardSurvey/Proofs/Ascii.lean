import Mathlib.Data.List.Infix
import DashboardSurvey.Files.Host
import DashboardSurvey.Proofs.RoundTrip
import DashboardSurvey.Text.Ascii
import DashboardSurvey.Text.Encoding

/-!
# Texts in ASCII

The text that is written for a value is ASCII, whatever is written.  Such a text comes back from its
bytes: each of its characters is a byte, and UTF-8 reads this byte as the character.

* `Ascii` — texts in ASCII.
* `utf8Bytes_of_ascii`, `decodeUtf8_of_ascii` — such a text as bytes, and as a text again.
* **`Host.text_of_ascii`**, **`decodeBody_of_ascii`** — it comes back from a file and from a body.
* **`ascii_render`** — the text of a value in a style of ASCII is ASCII.
-/

namespace DashboardSurvey

/-! ## ASCII -/

/-- All of the characters are ASCII. -/
def Ascii (cs : List Char) : Prop := ∀ c ∈ cs, isAscii c = true

instance (cs : List Char) : Decidable (Ascii cs) :=
  inferInstanceAs (Decidable (∀ c ∈ cs, isAscii c = true))

@[simp] lemma ascii_nil : Ascii [] := List.forall_mem_nil _

@[simp] lemma ascii_cons_iff {c : Char} {cs : List Char} :
    Ascii (c :: cs) ↔ isAscii c = true ∧ Ascii cs := List.forall_mem_cons

@[simp] lemma ascii_append_iff {cs ds : List Char} : Ascii (cs ++ ds) ↔ Ascii cs ∧ Ascii ds :=
  List.forall_mem_append

lemma Ascii.subset {cs ds : List Char} (h : Ascii cs) (hsub : ds ⊆ cs) : Ascii ds :=
  fun c hc => h c (hsub hc)

lemma ascii_replicate (n : ℕ) {c : Char} (h : isAscii c = true) : Ascii (List.replicate n c) :=
  fun _ hd => List.eq_of_mem_replicate hd ▸ h

lemma isAscii_of_isDigit {c : Char} (h : c.isDigit = true) : isAscii c = true := by
  simp only [Char.isDigit, Bool.and_eq_true, decide_eq_true_eq] at h
  have hle : c.toNat ≤ 57 := h.2
  simp only [isAscii, decide_eq_true_eq]
  omega

lemma ascii_toDigits (n : ℕ) : Ascii (Nat.toDigits 10 n) := fun _ hc =>
  isAscii_of_isDigit (isDigit_toDigits hc)

/-! ## Bytes -/

/-- From any place on, the bytes of an array are listed in their order. -/
lemma toList_loop (before rest listed : List UInt8) :
    ByteArray.toList.loop (before ++ rest).toByteArray before.length listed
      = listed.reverse ++ rest := by
  induction rest generalizing before listed with
  | nil => rw [ByteArray.toList.loop, if_neg (by simp), List.append_nil]
  | cons b rest ih =>
      have hget : (before ++ b :: rest).toByteArray.get! before.length = b := by
        simp [ByteArray.get!, List.data_toByteArray]
      have hnext := ih (before ++ [b]) (b :: listed)
      rw [List.append_assoc, List.length_append, List.singleton_append, List.length_singleton,
        List.reverse_cons, List.append_assoc, List.singleton_append] at hnext
      rw [ByteArray.toList.loop, if_pos (by simp), hget, hnext]

lemma toList_toByteArray (bs : List UInt8) : bs.toByteArray.toList = bs := toList_loop [] bs []

section Bytes

variable {cs : List Char}

/-- A character of ASCII as a byte. -/
lemma byte_of_ascii {c : Char} (h : isAscii c = true) :
    (UInt8.ofNat c.toNat).toNat = c.toNat ∧ UInt8.ofNat c.toNat < 0x80 := by
  have hcode : c.toNat < 128 := of_decide_eq_true h
  have hbyte : (UInt8.ofNat c.toNat).toNat = c.toNat := Nat.mod_eq_of_lt (by omega)
  refine ⟨hbyte, ?_⟩
  rw [UInt8.lt_iff_toNat_lt, hbyte]
  exact hcode

/-- In UTF-8, characters of ASCII are bytes of their own. -/
lemma utf8Bytes_of_ascii (h : Ascii cs) :
    utf8Bytes (String.ofList cs) = cs.map fun c => UInt8.ofNat c.toNat := by
  have hbytes : utf8Bytes (String.ofList cs) = cs.flatMap String.utf8EncodeChar :=
    toList_toByteArray _
  have hone : ∀ c ∈ cs, String.utf8EncodeChar c = [UInt8.ofNat c.toNat] := by
    intro c hc
    have hcode : c.toNat < 128 := of_decide_eq_true (h c hc)
    exact if_pos (Nat.le_of_lt_succ hcode)
  rw [hbytes, List.flatMap_congr hone, List.map_eq_flatMap]

/-- They are read as they were written. -/
lemma decodeUtf8From_of_ascii (h : Ascii cs) (loose : Bool) (position : ℕ) :
    decodeUtf8From loose position (cs.map fun c => UInt8.ofNat c.toNat) = .ok cs := by
  induction cs generalizing position with
  | nil => rfl
  | cons c rest ih =>
      rw [ascii_cons_iff] at h
      obtain ⟨hbyte, hsmall⟩ := byte_of_ascii h.1
      have hself : charsOfCode c.toNat = [c] := by
        rw [charsOfCode, if_neg, Char.ofNat_toNat]
        have hcode : c.toNat < 128 := of_decide_eq_true h.1
        simp only [isMarked, Bool.and_eq_true, decide_eq_true_eq]
        omega
      rw [List.map_cons, decodeUtf8From.eq_def]
      simp only [if_pos hsmall, hbyte, ih h.2, consChar, hself]
      rfl

theorem decodeUtf8_of_ascii (h : Ascii cs) : decodeUtf8 (utf8Bytes (String.ofList cs)) = .ok cs := by
  rw [decodeUtf8, utf8Bytes_of_ascii h, decodeUtf8From_of_ascii h]

/-- **A file in ASCII** is read as it was written, if its lines end in line feeds. -/
theorem Host.text_of_ascii (p : Path) (h : Ascii cs) (hline : '\r' ∉ cs) :
    text p (.file (utf8Bytes (String.ofList cs))) = .ok cs := by
  simp only [text, decodeUtf8_of_ascii h, unifyNewlines_of_not_mem hline]

/-- **A body in ASCII** is read as it was written, if its first bytes tell no other encoding. -/
theorem decodeBody_of_ascii (h : Ascii cs)
    (hencoding : detectEncoding (cs.map fun c => UInt8.ofNat c.toNat) = (.utf8, 0)) :
    decodeBody (utf8Bytes (String.ofList cs)) = some cs := by
  rw [decodeBody, utf8Bytes_of_ascii h, hencoding]
  simp only [List.drop_zero, decodeUtf8From_of_ascii h]
  rfl

end Bytes

/-! ## Numbers -/

lemma ascii_intChars (n : Int) : Ascii (intChars n) := by
  rw [intChars]
  split_ifs
  · simp [ascii_toDigits, isAscii]
  · exact ascii_toDigits _

namespace Layout

variable {ds : List Char}

lemma ascii_plain (hds : Ascii ds) (point : Int) : Ascii (plain ds point).toList := by
  have hzero : ∀ n, Ascii (List.replicate n '0') := fun n => ascii_replicate n rfl
  unfold plain
  split_ifs
  · simp [hds, hzero, isAscii]
  · have htake := hds.subset (List.take_subset point.toNat ds)
    have hdrop := hds.subset (List.drop_subset point.toNat ds)
    dsimp only
    split_ifs <;> simp [htake, hdrop, hzero, isAscii]

lemma ascii_padZeros (width n : ℕ) : Ascii (padZeros width n.repr).toList := by
  simp [padZeros, ascii_toDigits, ascii_replicate, isAscii]

lemma ascii_scientific (l : Layout) (hds : Ascii ds) (power : Int) :
    Ascii (l.scientific ds power).toList := by
  have htake := hds.subset (List.take_subset 1 ds)
  have htail := hds.subset (List.tail_subset ds)
  unfold scientific
  dsimp only
  split_ifs <;> simp [htake, htail, ascii_padZeros, isAscii]

lemma ascii_text (x : Binary64) : Ascii (jsonLayout.text x).toList := by
  cases x with
  | finite x =>
      have hfinite : Ascii (jsonLayout.finite x).toList := by
        unfold finite
        dsimp only
        split_ifs
        · simp [isAscii]
        · exact ascii_plain (ascii_toDigits _) _
        · exact ascii_scientific _ (ascii_toDigits _) _
      rw [text]
      split_ifs <;> simp [hfinite, isAscii]
  | infinite s => cases s <;> simp [text, jsonLayout, isAscii]
  | undefined => simp [text, jsonLayout, isAscii]

end Layout

/-! ## Texts -/

lemma ascii_escapeUnit (n : ℕ) : Ascii (escapeUnit n) := by
  have hdigit : ∀ n < 16, isAscii (Nat.digitChar n) = true := by decide
  have hmod : ∀ m, isAscii (Nat.digitChar (m % 16)) = true := fun m =>
    hdigit _ (Nat.mod_lt m (by decide))
  simp only [escapeUnit, ascii_cons_iff, hmod, ascii_nil, and_true]
  decide

lemma Written.ascii {n : ℕ} {w : List Char} (hw : Written n w) : Ascii w := by
  have hlt : ∀ d : Char, d.toNat < 127 → isAscii d = true := fun d hd =>
    decide_eq_true (hd.trans (by decide))
  cases hw with
  | letter _ _ _ hascii => exact ascii_cons_iff.mpr ⟨rfl, by simp [hlt _ hascii]⟩
  | plain _ _ _ _ hascii => simp [hlt _ hascii]
  | unit _ => exact ascii_escapeUnit _
  | pair _ _ _ => simp [ascii_escapeUnit]

lemma ascii_jsonString (s : String) : Ascii (jsonString s) := by
  have hbody : Ascii ((codes s.toList).flatMap escapeJson) := by
    intro c hc
    obtain ⟨n, hn, hc⟩ := List.mem_flatMap.mp hc
    exact (written_escapeJson (lt_of_mem_codes hn)).ascii c hc
  simp [jsonString, hbody, isAscii]

lemma ascii_scalarChars (s : Scalar) : Ascii (scalarChars s) := by
  cases s with
  | null => simp [scalarChars, isAscii]
  | bool b => cases b <;> simp [scalarChars, isAscii]
  | int n => exact ascii_intChars n
  | num x => exact Layout.ascii_text x
  | str s => exact ascii_jsonString s

/-! ## Values -/

/-- The style puts nothing but ASCII between tokens. -/
structure Style.OfAscii (style : Style) : Prop where
  bracket : ∀ depth, Ascii (style.bracket depth)
  comma : ∀ depth, Ascii (style.comma depth)

lemma ascii_lineAt (depth : ℕ) : Ascii (lineAt depth) :=
  ascii_cons_iff.mpr ⟨rfl, ascii_replicate _ rfl⟩

lemma ofAscii_indentedStyle : indentedStyle.OfAscii := ⟨ascii_lineAt, ascii_lineAt⟩

lemma ofAscii_inlineStyle : inlineStyle.OfAscii where
  bracket _ := ascii_nil
  comma _ := by simp [inlineStyle, isAscii]

/-- To show something of every value it is enough to show it of scalars, and of lists and objects
when it holds of what stands in them. -/
@[elab_as_elim]
theorem Json.valueInduction {motive : Json → Prop} (scalar : ∀ s, motive (.scalar s))
    (list : ∀ items, (∀ x ∈ items, motive x) → motive (.list items))
    (object : ∀ members, (∀ m ∈ members, motive m.2) → motive (.object members)) (v : Json) :
    motive v :=
  match v with
  | .scalar s => scalar s
  | .list items => list items fun x _ => Json.valueInduction scalar list object x
  | .object members => object members fun m hm =>
    have : sizeOf m.2 < sizeOf members :=
      lt_of_lt_of_le (by rcases m; simp only [Prod.mk.sizeOf_spec]; omega)
        (List.sizeOf_lt_of_mem hm).le
    Json.valueInduction scalar list object m.2

section Values

variable {style : Style}

lemma ascii_renderItems (hstyle : style.OfAscii) (depth : ℕ) {vs : List Json}
    (h : ∀ v ∈ vs, ∀ depth, Ascii (v.render style depth)) :
    Ascii (Json.renderItems style depth vs) := by
  induction vs with
  | nil => rw [Json.renderItems]; exact ascii_nil
  | cons v rest ih =>
      rw [List.forall_mem_cons] at h
      rw [Json.renderItems]
      simp [hstyle.comma depth, h.1 depth, ih h.2, isAscii]

lemma ascii_renderMembers (hstyle : style.OfAscii) (depth : ℕ) {ms : List (String × Json)}
    (h : ∀ m ∈ ms, ∀ depth, Ascii (m.2.render style depth)) :
    Ascii (Json.renderMembers style depth ms) := by
  induction ms with
  | nil => rw [Json.renderMembers]; exact ascii_nil
  | cons m rest ih =>
      rw [List.forall_mem_cons] at h
      rw [Json.renderMembers]
      simp [hstyle.comma depth, ascii_jsonString, h.1 depth, ih h.2, isAscii]

/-- **The text of a value is ASCII.** -/
theorem ascii_render (hstyle : style.OfAscii) (v : Json) (depth : ℕ) :
    Ascii (v.render style depth) := by
  induction v using Json.valueInduction generalizing depth with
  | scalar s =>
      rw [Json.render]
      exact ascii_scalarChars s
  | list items ih =>
      cases items with
      | nil => simp [Json.render, isAscii]
      | cons v rest =>
          rw [List.forall_mem_cons] at ih
          rw [Json.render]
          simp [hstyle.bracket, ih.1, ascii_renderItems hstyle _ ih.2, isAscii]
  | object members ih =>
      cases members with
      | nil => simp [Json.render, isAscii]
      | cons m rest =>
          rw [List.forall_mem_cons] at ih
          rw [Json.render]
          simp [hstyle.bracket, ascii_jsonString, ih.1, ascii_renderMembers hstyle _ ih.2, isAscii]

end Values

end DashboardSurvey
