import ChatScribe.Charset.Reading
import ChatScribe.Proofs.Charset.Utf16

/-!
# Plain pages

The bytes of a plain page are printable characters of ASCII, tabs and line ends. Nearly all encodings
write these characters as ASCII does, so a page may declare any of them and is still read as what its
bytes say (`read_of_isPlain`). The others are the two of sixteen-bit units and the one that stands for
encodings that are not safe to read: a page that declares this one is refused.
-/

namespace ChatScribe.Charset

/-- A byte of a plain page. -/
def IsPlain (b : UInt8) : Prop :=
  b.toNat = 0x09 ∨ b.toNat = 0x0A ∨ b.toNat = 0x0D ∨ 0x20 ≤ b.toNat ∧ b.toNat ≤ 0x7E

instance (b : UInt8) : Decidable (IsPlain b) := inferInstanceAs (Decidable (_ ∨ _))

/-- The text that bytes spell in ASCII. -/
def asciiText (bs : List UInt8) : Text := bs.map ofAscii

/-- Does an encoding write plain characters as ASCII does? -/
def keepsAscii : Charset → Bool
  | .utf16 _ | .replacement => false
  | _ => true

section

variable {b : UInt8} {bs : List UInt8}

theorem IsPlain.lt (h : IsPlain b) : b.toNat < 0x80 := by
  unfold IsPlain at h
  omega

theorem IsPlain.isAscii_eq (h : IsPlain b) : isAscii b = true := decide_eq_true h.lt

theorem toNat_ofAscii (h : b.toNat < 0x80) : (ofAscii b).toNat = b.toNat := by
  have hvalid : b.toNat.isValidChar := Or.inl (by omega)
  exact Utf16.ofCode?_eq_some_iff.mp (if_pos hvalid)

/-! ## Decoders -/

/-- The text of a plain page is written with the same bytes in UTF-8. -/
theorem encode_asciiText (h : ∀ b ∈ bs, IsPlain b) : Utf8.encode (asciiText bs) = bs := by
  induction bs with
  | nil => rfl
  | cons b bs ih =>
    obtain ⟨hb, hbs⟩ := List.forall_mem_cons.mp h
    have hnumber := toNat_ofAscii hb.lt
    have hchar : Utf8.encodeChar (ofAscii b) = [b] := by
      rw [Utf8.encodeChar_of_one (hnumber ▸ hb.lt), hnumber, UInt8.ofNat_toNat]
    show Utf8.encodeChar (ofAscii b) ++ Utf8.encode (asciiText bs) = b :: bs
    rw [hchar, ih hbs]
    rfl

theorem decode?_utf8_of_isPlain (h : ∀ b ∈ bs, IsPlain b) :
    decode? .utf8 bs = some (asciiText bs) := by
  have hdecode := Utf8.decode?_encode (asciiText bs)
  rwa [encode_asciiText h] at hdecode

/-- A decoder that takes each plain byte by itself reads plain pages. -/
theorem eq_asciiText_of_cons (decoder : List UInt8 → Option Text) (hnil : decoder [] = some [])
    (hcons : ∀ b rest, IsPlain b → decoder (b :: rest) = (decoder rest).map (ofAscii b :: ·))
    (h : ∀ b ∈ bs, IsPlain b) : decoder bs = some (asciiText bs) := by
  induction bs with
  | nil => exact hnil
  | cons b bs ih =>
    obtain ⟨hb, hbs⟩ := List.forall_mem_cons.mp h
    rw [hcons b bs hb, ih hbs]
    rfl

theorem decode?_page_of_isPlain (p : CodePage) (h : ∀ b ∈ bs, IsPlain b) :
    decode? (.page p) bs = some (asciiText bs) := by
  refine eq_asciiText_of_cons p.decode? rfl (fun b rest hb => ?_) h
  have hchar : CodePage.char? p.index b = some (ofAscii b) := if_pos hb.lt
  unfold CodePage.decode?
  dsimp only
  rw [List.mapM_cons, hchar]
  cases List.mapM (CodePage.char? p.index) rest <;> rfl

/-- Without escape sequences the characters of ISO-2022-JP are those of ASCII. -/
theorem iso2022JpFrom?_of_isPlain (fresh : Bool) (h : ∀ b ∈ bs, IsPlain b) :
    iso2022JpFrom? .ascii fresh bs.length bs = some (asciiText bs) := by
  induction bs generalizing fresh with
  | nil => rfl
  | cons b bs ih =>
    obtain ⟨hb, hbs⟩ := List.forall_mem_cons.mp h
    have hescape : ¬ b.toNat = 0x1B := by
      unfold IsPlain at hb
      omega
    have hshown : b.toNat < 0x80 ∧ b.toNat ≠ 0x0E ∧ b.toNat ≠ 0x0F := by
      unfold IsPlain at hb
      omega
    rw [List.length_cons, iso2022JpFrom?.eq_def]
    dsimp only
    rw [if_neg hescape, if_pos hshown, ih false hbs]
    rfl

theorem decode?_of_keepsAscii {c : Charset} (hc : c.keepsAscii = true) (h : ∀ b ∈ bs, IsPlain b) :
    decode? c bs = some (asciiText bs) := by
  cases c with
  | utf8 => exact decode?_utf8_of_isPlain h
  | page p => exact decode?_page_of_isPlain p h
  | gbk | gb18030 =>
    refine eq_asciiText_of_cons gb? rfl (fun b rest hb => ?_) h
    rw [gb?.eq_def]
    exact if_pos hb.isAscii_eq
  | big5 =>
    refine eq_asciiText_of_cons big5? rfl (fun b rest hb => ?_) h
    rw [big5?.eq_def]
    exact if_pos hb.isAscii_eq
  | eucJp =>
    refine eq_asciiText_of_cons eucJp? rfl (fun b rest hb => ?_) h
    rw [eucJp?.eq_def]
    exact if_pos hb.isAscii_eq
  | eucKr =>
    refine eq_asciiText_of_cons eucKr? rfl (fun b rest hb => ?_) h
    rw [eucKr?.eq_def]
    exact if_pos hb.isAscii_eq
  | shiftJis =>
    refine eq_asciiText_of_cons shiftJis? rfl (fun b rest hb => ?_) h
    rw [shiftJis?.eq_def]
    exact if_pos (Nat.le_of_lt hb.lt)
  | iso2022Jp => exact iso2022JpFrom?_of_isPlain false h
  | userDefined =>
    have hmap : bs.map userChar = asciiText bs :=
      List.map_congr_left fun b hb => if_pos (h b hb).isAscii_eq
    rw [decode?, hmap]
  | utf16 order => cases hc
  | replacement => cases hc

/-! ## The choice of an encoding -/

/-- No mark starts with a plain byte. -/
theorem ofMark?_of_isPlain (h : ∀ b ∈ bs, IsPlain b) : ofMark? bs = none := by
  unfold ofMark?
  split
  case h_4 => rfl
  all_goals
    have hfirst := (h _ List.mem_cons_self).lt
    exact absurd hfirst (by decide)

/-- A plain page looks like UTF-8. -/
theorem detect_of_isPlain (h : ∀ b ∈ bs, IsPlain b) : detect bs = .utf8 := by
  have hescape : bs.contains 0x1B = false := by
    rw [List.contains_eq_mem, decide_eq_false_iff_not]
    intro hmem
    exact absurd (h _ hmem) (by decide)
  have hutf8 : Utf8.decode? bs = some (asciiText bs) := decode?_utf8_of_isPlain h
  rw [detect, hescape, Bool.and_false, Bool.false_and, if_neg Bool.false_ne_true, hutf8]
  rfl

theorem ne_nil_of_ofMeta? {c : Charset} (h : ofMeta? bs = some c) : bs ≠ [] := by
  rintro rfl
  cases h

/-- A plain page is read in the encoding that it declares. -/
theorem read_of_ofMeta? {c : Charset} (h : ∀ b ∈ bs, IsPlain b) (hc : ofMeta? bs = some c) :
    read bs none = readIn c .metaTag bs := by
  have hchoose : choose bs none = (c, .metaTag) := by
    simp only [choose, Option.bind_none, hc]
  simp only [read, ofMark?_of_isPlain h, hchoose]

/-- A plain page without declaration is read in UTF-8. -/
theorem read_of_ofMeta?_eq_none (h : ∀ b ∈ bs, IsPlain b) (hnone : ofMeta? bs = none) :
    read bs none = readIn .utf8 .detected bs := by
  have hchoose : choose bs none = (.utf8, .detected) := by
    simp only [choose, Option.bind_none, hnone, detect_of_isPlain h]
  simp only [read, ofMark?_of_isPlain h, hchoose]

/-! ## Labels -/

/-- The labels of each encoding, as texts. -/
def labelTexts : List (Charset × Text) := labels.map fun entry => (entry.1, entry.2.toList)

theorem ofLabel?_eq_find?_labelTexts (label : Text) :
    ofLabel? label
      = (labelTexts.find? fun entry => (Text.words entry.2).contains (Text.lower
          ((label.dropWhile Text.isMarkupSpace).reverse.dropWhile Text.isMarkupSpace).reverse)).map
        Prod.fst := by
  rw [labelTexts, List.find?_map, Option.map_map]
  rfl

/-- Labels of three kinds of encodings. -/
theorem ofLabel?_samples :
    ofLabel? "MS_Kanji".toList = some .shiftJis ∧
    ofLabel? "hz-gb-2312".toList = some .replacement ∧
    ofLabel? "utf-16".toList = some (.utf16 .little) := by
  iterate 3 rw [ofLabel?_eq_find?_labelTexts]
  rw [labelTexts, labels]
  simp only [List.map_cons, List.map_nil]
  -- the kernel is slow at taking strings apart, so each is replaced by its characters first
  repeat rw [String.toList_ofList]
  decide +kernel

theorem ofMeta?_of_findMeta? {label : Text} (hlength : bs.length ≤ metaLength)
    (h : findMeta? (scalars bs.length bs) = some label) : ofMeta? bs = ofLabel? label := by
  simp only [ofMeta?, List.take_of_length_le hlength, h, Option.bind_some]

end

/-- A plain page is read as what its bytes say: in UTF-8 if it declares no encoding, and in the encoding
that it declares if this one writes plain characters as ASCII does. A page is refused if it declares an
encoding that is not safe to read. -/
theorem read_of_isPlain {bs : List UInt8} (h : ∀ b ∈ bs, IsPlain b) :
    (ofMeta? bs = none → read bs none = .ok ⟨asciiText bs, .utf8, .detected⟩) ∧
    (∀ c, ofMeta? bs = some c → c.keepsAscii = true →
      read bs none = .ok ⟨asciiText bs, c, .metaTag⟩) ∧
    (ofMeta? bs = some .replacement → read bs none = .error ⟨.replacement⟩) ∧
    Utf8.encode (asciiText bs) = bs := by
  refine ⟨fun hnone => ?_, fun c hc hkeeps => ?_, fun hc => ?_, encode_asciiText h⟩
  · rw [read_of_ofMeta?_eq_none h hnone, readIn, decode?_utf8_of_isPlain h]
  · rw [read_of_ofMeta? h hc, readIn, decode?_of_keepsAscii hkeeps h]
  · have hempty : bs.isEmpty = false := List.isEmpty_eq_false_iff.mpr (ne_nil_of_ofMeta? hc)
    rw [read_of_ofMeta? h hc, readIn, decode?, hempty]
    rfl

/-- A page that declares an encoding in which the tilde and the backslash have been other characters. -/
theorem read_of_isPlain_shiftJis :
    let page := "<META content='x' charset = \"MS_Kanji\">\r\n\t~\\".toList
    (∀ b ∈ Utf8.encode page, IsPlain b) ∧ ofMeta? (Utf8.encode page) = some .shiftJis ∧
      read (Utf8.encode page) none = .ok ⟨page, .shiftJis, .metaTag⟩ := by
  intro page
  have hplain : ∀ b ∈ Utf8.encode page, IsPlain b := by decide +kernel
  have hmeta : ofMeta? (Utf8.encode page) = some .shiftJis :=
    (ofMeta?_of_findMeta? (by decide +kernel) (by decide +kernel)).trans ofLabel?_samples.1
  have htext : asciiText (Utf8.encode page) = page := by decide +kernel
  have hread := (read_of_isPlain hplain).2.1 .shiftJis hmeta rfl
  rw [htext] at hread
  exact ⟨hplain, hmeta, hread⟩

/-- Not every plain page is read as what its bytes say: one declares an encoding that is not safe to
read, and another declares units of sixteen bits although it is written in bytes. -/
theorem not_forall_read_of_isPlain :
    let refusedPage := Utf8.encode "<meta charset=hz-gb-2312>".toList
    let widePage := Utf8.encode "<meta charset=utf-16> ".toList
    (¬ ∀ bs, (∀ b ∈ bs, IsPlain b) → ∃ r, read bs none = .ok r ∧ r.text = asciiText bs) ∧
    (∀ b ∈ refusedPage, IsPlain b) ∧ read refusedPage none = .error ⟨.replacement⟩ ∧
    (∀ b ∈ widePage, IsPlain b) ∧
      read widePage none = .ok ⟨"洼瑥⁡档牡敳㵴瑵\u2D66㘱‾".toList, .utf16 .little, .metaTag⟩ := by
  intro refusedPage widePage
  have hplain : ∀ b ∈ refusedPage, IsPlain b := by decide +kernel
  have hwide : ∀ b ∈ widePage, IsPlain b := by decide +kernel
  have hreplaced : ofMeta? refusedPage = some .replacement :=
    (ofMeta?_of_findMeta? (by decide +kernel) (by decide +kernel)).trans ofLabel?_samples.2.1
  have hunits : ofMeta? widePage = some (.utf16 .little) :=
    (ofMeta?_of_findMeta? (by decide +kernel) (by decide +kernel)).trans ofLabel?_samples.2.2
  have hrefused : read refusedPage none = .error ⟨.replacement⟩ := by
    rw [read_of_ofMeta? hplain hreplaced]
    rfl
  refine ⟨fun hall => ?_, hplain, hrefused, hwide, ?_⟩
  · obtain ⟨r, hok, -⟩ := hall refusedPage hplain
    rw [hrefused] at hok
    cases hok
  · rw [read_of_ofMeta? hwide hunits]
    decide +kernel

end ChatScribe.Charset
