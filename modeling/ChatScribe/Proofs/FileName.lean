import ChatScribe.Proofs.Saving.NameLimit
import ChatScribe.Proofs.Title

/-!
# Which file names can be saved under

The name of a document is the brand, the moment of the save, and the title, with a hyphen between them
and an ending. It consists of letters and digits of ASCII, ideographs, underscores, hyphens and dots,
and its size is told by its title alone: 36 bytes, one more for each character of the title, and two
more for each ideograph. The title is cut at eighty characters, so a disk that takes names of up to 255
bytes takes every name with at most 73 characters in its title, and not every one with more
(`save_ofDocument`).
-/

namespace ChatScribe

namespace Moment

theorem length_padded {width n : Nat} (hwidth : 0 < width) (h : n < 10 ^ width) :
    (padded width n).length = width := by
  have hdigits : (Text.ofNat n).length ≤ width := by
    rw [Text.ofNat_eq_toDigits]
    exact Nat.toDigits_length 10 n width hwidth h
  unfold padded
  rw [List.length_append, List.length_replicate]
  omega

theorem isAsciiDigit_of_mem_padded {width n : Nat} {c : Char} (h : c ∈ padded width n) :
    Text.isAsciiDigit c = true := by
  unfold padded at h
  rcases List.mem_append.mp h with h | h
  · rw [(List.mem_replicate.mp h).2]
    rfl
  · exact Text.isAsciiDigit_of_mem_ofNat h

theorem daysIn_le (year : Int) (month : Nat) : daysIn year month ≤ 31 := by
  unfold daysIn
  repeat' split
  all_goals omega

theorem month_le_of_daysIn {year : Int} {month : Nat} (h : 0 < daysIn year month) : month ≤ 12 := by
  by_contra hmonth
  have hnone : daysIn year month = 0 := by
    unfold daysIn
    split <;> omega
  omega

/-- Are all the parts of a moment such that it is shown in fifteen characters? -/
structure IsShort (m : Moment) : Prop where
  year : 0 ≤ m.year ∧ m.year ≤ 9999
  month : m.month ≤ 12
  day : m.day ≤ 31
  hour : m.hour < 24
  minute : m.minute < 60
  second : m.second ≤ 60

theorem isShort_of_ofParts? {year : Int} {month day hour minute second nanosecond : Nat} {m : Moment}
    (h : ofParts? year month day hour minute second nanosecond = some m)
    (hyear : 0 ≤ year ∧ year ≤ 9999) : m.IsShort := by
  unfold ofParts? at h
  obtain ⟨hexists, h⟩ := Option.ite_none_right_eq_some.mp h
  simp only [Bool.and_eq_true, decide_eq_true_eq] at hexists
  obtain ⟨⟨⟨-, hfirst⟩, hlast⟩, ⟨⟨hhour, hminute⟩, hsecond⟩, -⟩ := hexists
  obtain rfl := Option.some.inj h
  have hdays := daysIn_le year month
  have hshown : (if nanosecond < 1000000000 then second else second + 1) ≤ 60 := by
    split <;> omega
  exact ⟨hyear, month_le_of_daysIn (Nat.lt_of_lt_of_le hfirst hlast), Nat.le_trans hlast hdays, hhour, hminute, hshown⟩

theorem IsShort.yearText_eq {m : Moment} (h : m.IsShort) : yearText m.year = padded 4 m.year.toNat := by
  unfold yearText
  rw [if_pos h.year]

theorem IsShort.length_stamp {m : Moment} (h : m.IsShort) : m.stamp.length = 15 := by
  have hyear := h.year
  have hmonth := h.month
  have hday := h.day
  have hhour := h.hour
  have hminute := h.minute
  have hsecond := h.second
  unfold stamp
  rw [h.yearText_eq]
  simp only [List.length_append, List.length_cons]
  rw [length_padded (by omega) (by omega), length_padded (by omega) (by omega),
    length_padded (by omega) (by omega), length_padded (by omega) (by omega),
    length_padded (by omega) (by omega), length_padded (by omega) (by omega)]

theorem IsShort.mem_stamp {m : Moment} (h : m.IsShort) {c : Char} (hc : c ∈ m.stamp) :
    Text.isAsciiDigit c = true ∨ c = '-' := by
  unfold stamp at hc
  rw [h.yearText_eq] at hc
  simp only [List.mem_append, List.mem_cons] at hc
  rcases hc with ((((hc | hc) | hc) | (rfl | hc)) | hc) | hc
  all_goals first
    | exact Or.inl (isAsciiDigit_of_mem_padded hc)
    | exact Or.inr rfl

end Moment

namespace Title

def isIdeograph (c : Char) : Bool := '\u4E00' ≤ c && c ≤ '\u9FFF'

theorem isWordChar_eq (c : Char) : isWordChar c = (Text.isAsciiAlphanum c || isIdeograph c) := rfl

theorem toNat_of_isIdeograph {c : Char} (h : isIdeograph c = true) :
    0x4E00 ≤ c.toNat ∧ c.toNat ≤ 0x9FFF := by
  unfold isIdeograph at h
  rw [Bool.and_eq_true, decide_eq_true_eq, decide_eq_true_eq] at h
  exact h

theorem toNat_lt_of_isAsciiAlphanum {c : Char} (h : Text.isAsciiAlphanum c = true) :
    c.toNat < 0x80 := by
  have hle : ∀ a b : Char, a ≤ b ↔ a.toNat ≤ b.toNat := fun a b => Iff.rfl
  unfold Text.isAsciiAlphanum Text.isAsciiAlpha Text.isAsciiUpper Text.isAsciiLower
    Text.isAsciiDigit at h
  simp only [Bool.or_eq_true, Bool.and_eq_true, decide_eq_true_eq, hle] at h
  simp only [Char.reduceToNat] at h
  omega

end Title

namespace FileName

/-! ## The title in a name -/

/-- What a heading leaves in a file name is a title, up to the cut. -/
theorem of_mem_titlePart {raw : Text} {c : Char} (h : c ∈ titlePart raw) :
    Title.isWordChar c = true ∨ c = '_' := by
  unfold titlePart Title.joinWords at h
  have hjoined := List.mem_of_mem_take h
  generalize hkept : (stripBrand raw.trim).filter Title.isTitleChar = kept at hjoined
  have hwords : ∀ w ∈ Text.words kept, w ≠ [] ∧ ∀ d ∈ w, Title.isWordChar d = true := by
    intro w hw
    refine Title.of_mem_words (fun d hd => ?_) hw
    rw [← hkept] at hd
    exact (List.mem_filter.mp hd).2
  by_cases hnone : Text.words kept = []
  · rw [hnone] at hjoined
    cases hjoined
  · exact (Title.isTitle_join hnone hwords).chars c hjoined

theorem of_mem_untitled {c : Char} (h : c ∈ untitled) : Title.isWordChar c = true := by
  have hall : untitled.all Title.isWordChar = true := rfl
  exact List.all_eq_true.mp hall c h

theorem titleOf_cases (markdown : Text) :
    titleOf markdown = untitled ∨ ∃ heading, titleOf markdown = titlePart heading := by
  unfold titleOf
  split
  · dsimp only
    split
    · exact Or.inl rfl
    · exact Or.inr ⟨_, rfl⟩
  · exact Or.inl rfl

theorem of_mem_titleOf {markdown : Text} {c : Char} (h : c ∈ titleOf markdown) :
    Title.isWordChar c = true ∨ c = '_' := by
  rcases titleOf_cases markdown with htitle | ⟨heading, htitle⟩
  · rw [htitle] at h
    exact Or.inl (of_mem_untitled h)
  · rw [htitle] at h
    exact of_mem_titlePart h

theorem length_titleOf_le (markdown : Text) : (titleOf markdown).length ≤ maxTitleLength := by
  rcases titleOf_cases markdown with htitle | ⟨heading, htitle⟩
  · rw [htitle]
    decide
  · rw [htitle]
    exact List.length_take_le _ _

/-! ## The name -/

section

variable {markdown : Text} {m : Moment}

/-- The part of a name in front of the title. -/
def head (m : Moment) : Text := "GeminiChatRecord-".toList ++ m.stamp ++ ['-']

theorem ofDocument_eq (markdown : Text) (m : Moment) :
    ofDocument markdown m = head m ++ titleOf markdown ++ ".md".toList := by
  unfold ofDocument head
  simp only [List.append_assoc, List.cons_append, List.nil_append]

theorem of_mem_head (hm : m.IsShort) {c : Char} (h : c ∈ head m) :
    Text.isAsciiAlphanum c = true ∨ c = '-' := by
  have hbrand : "GeminiChatRecord-".toList.all
      (fun c => decide (Text.isAsciiAlphanum c = true ∨ c = '-')) = true := by decide
  unfold head at h
  rw [List.mem_append, List.mem_append, List.mem_singleton] at h
  rcases h with (h | h) | h
  · exact of_decide_eq_true (List.all_eq_true.mp hbrand c h)
  · rcases hm.mem_stamp h with hdigit | rfl
    · left
      unfold Text.isAsciiAlphanum
      rw [hdigit, Bool.or_true]
    · exact Or.inr rfl
  · exact Or.inr h

theorem of_mem_ofDocument (hm : m.IsShort) {c : Char} (h : c ∈ ofDocument markdown m) :
    Title.isWordChar c = true ∨ c ∈ ['_', '-', '.'] := by
  have hending : ".md".toList.all
      (fun c => decide (Title.isWordChar c = true ∨ c ∈ ['_', '-', '.'])) = true := by decide
  rw [ofDocument_eq, List.mem_append, List.mem_append] at h
  rcases h with (h | h) | h
  · rcases of_mem_head hm h with hword | rfl
    · left
      rw [Title.isWordChar_eq, hword, Bool.true_or]
    · exact Or.inr (by decide)
  · rcases of_mem_titleOf h with hword | rfl
    · exact Or.inl hword
    · exact Or.inr (by decide)
  · exact of_decide_eq_true (List.all_eq_true.mp hending c h)

theorem isName_ofDocument (hm : m.IsShort) : Path.IsName (ofDocument markdown m) := by
  have hhead : ofDocument markdown m = 'G' :: (ofDocument markdown m).tail := rfl
  refine ⟨?_, ?_, ?_⟩
  · rw [hhead]
    exact List.cons_ne_nil _ _
  · intro hslash
    exact absurd (of_mem_ofDocument hm hslash) (by decide)
  · rw [hhead]
    rfl

/-- A name takes 36 bytes and those of its title. -/
theorem byteCount_ofDocument (hm : m.IsShort) : Path.byteCount (ofDocument markdown m) =
    36 + (titleOf markdown).length + 2 * (titleOf markdown).countP Title.isIdeograph := by
  have hhead : Path.byteCount (head m) = 33 := by
    have hascii : ∀ c ∈ head m, c.toNat < 0x80 := by
      intro c hc
      rcases of_mem_head hm hc with hword | rfl
      · exact Title.toNat_lt_of_isAsciiAlphanum hword
      · decide
    unfold Path.byteCount
    rw [Utf8.length_encode_of_ascii hascii]
    unfold head
    rw [List.length_append, List.length_append, hm.length_stamp]
    rfl
  have htitle : Path.byteCount (titleOf markdown) =
      (titleOf markdown).length + 2 * (titleOf markdown).countP Title.isIdeograph := by
    refine Utf8.length_encode ?_ ?_
    · intro c hc hnarrow
      rcases of_mem_titleOf hc with hword | rfl
      · rw [Title.isWordChar_eq, hnarrow, Bool.or_false] at hword
        exact Title.toNat_lt_of_isAsciiAlphanum hword
      · decide
    · intro c _ hwide
      have hrange := Title.toNat_of_isIdeograph hwide
      omega
  have hending : Path.byteCount ".md".toList = 3 := by decide
  rw [ofDocument_eq, Path.byteCount_append, Path.byteCount_append, hhead, htitle, hending]
  omega

end

/-! ## Saving under the name -/

/-- What a document is saved under at a moment of the years from 0 to 9999. Its name can be that of a
file exactly as far as its title is short enough, in bytes. A file is put under such a name if nothing
has it; saving fails at a name that is too long; and if there is room for the numbers as well, saving
fails at no name. -/
theorem save_ofDocument (markdown : Text) {year : Int}
    {month day hour minute second nanosecond : Nat} {m : Moment}
    (hmoment : Moment.ofParts? year month day hour minute second nanosecond = some m)
    (hyear : 0 ≤ year ∧ year ≤ 9999) :
    (∀ c ∈ ofDocument markdown m, Title.isWordChar c = true ∨ c ∈ ['_', '-', '.']) ∧
    "GeminiChatRecord-".toList <+: ofDocument markdown m ∧
    ".md".toList <:+ ofDocument markdown m ∧
    '/' ∉ ofDocument markdown m ∧ '\\' ∉ ofDocument markdown m ∧
    (titleOf markdown).length ≤ 80 ∧
    Path.byteCount (ofDocument markdown m) =
      36 + (titleOf markdown).length + 2 * (titleOf markdown).countP Title.isIdeograph ∧
    ∀ (lineOf : Record → Text) (programs : Programs) (dir content : Text) (b b' : Sandbox),
      b.disk.entry? b.disk.workingDir = some .directory →
      (Saving.ensureDir (Sandbox.host lineOf programs) dir).run b = (.ok (), b') →
      Path.byteCount dir + 1 + Path.maxName ≤ Path.maxPath →
      ∃ p, b'.disk.LeadsTo dir p ∧
        (Path.byteCount (ofDocument markdown m) ≤ 255 →
          b'.disk.entry? (ofDocument markdown m :: p) = none →
          (Saving.save (Sandbox.host lineOf programs) dir (ofDocument markdown m) content).run b =
            (.ok (ofDocument markdown m),
              Saving.withFile b' (ofDocument markdown m :: p) content)) ∧
        (255 < Path.byteCount (ofDocument markdown m) →
          (Saving.save (Sandbox.host lineOf programs) dir (ofDocument markdown m) content).run b =
            (.error (.fault .nameTooLong), b')) ∧
        (Path.byteCount (ofDocument markdown m) + 6 ≤ 255 → ∀ f,
          ((Saving.save (Sandbox.host lineOf programs) dir (ofDocument markdown m) content).run b).1 ≠
            .error (.fault f)) ∧
        ∀ f, ((Saving.save (Sandbox.host lineOf programs) dir
            (ofDocument markdown m) content).run b).1 = .error (.fault f) ↔
          f = .nameTooLong ∧ ∃ number < Saving.maxNames,
            255 < Path.byteCount (Saving.numberedName (ofDocument markdown m) number) ∧
            ∀ k < number, (b'.disk.entry?
              (Saving.numberedName (ofDocument markdown m) k :: p)).isSome = true := by
  have hm := Moment.isShort_of_ofParts? hmoment hyear
  have hchars : ∀ c ∈ ofDocument markdown m, Title.isWordChar c = true ∨ c ∈ ['_', '-', '.'] :=
    fun c hc => of_mem_ofDocument hm hc
  have hname : Path.IsName (ofDocument markdown m) := isName_ofDocument hm
  have hnul : '\x00' ∉ ofDocument markdown m := fun hmem => absurd (hchars _ hmem) (by decide)
  have hbackslash : '\\' ∉ ofDocument markdown m := fun hmem => absurd (hchars _ hmem) (by decide)
  refine ⟨hchars, ?_, ?_, hname.slash, hbackslash, length_titleOf_le markdown,
    byteCount_ofDocument hm, ?_⟩
  · have hhead : "GeminiChatRecord-".toList <+: head m :=
      (List.prefix_append _ m.stamp).trans (List.prefix_append _ ['-'])
    rw [ofDocument_eq, List.append_assoc]
    exact hhead.trans (List.prefix_append (head m) _)
  · rw [ofDocument_eq]
    exact List.suffix_append _ _
  · intro lineOf programs dir content b b' hworking hensured hroom
    obtain ⟨p, hdir, hending⟩ :=
      Saving.ending_save lineOf programs content hname hnul hroom hworking hensured
    have hpositive : 0 < Saving.maxNames := by decide
    refine ⟨p, hdir, ?_, ?_, ?_, hending.fault_iff⟩
    · intro hfits hfree
      obtain ⟨houtcome, hstate⟩ := hending.of_free hpositive hfits hfree
      exact Prod.ext houtcome hstate
    · intro hlong
      obtain ⟨houtcome, hstate⟩ := hending.of_long hpositive hlong
      exact Prod.ext houtcome hstate
    · intro hshort f hfault
      obtain ⟨-, number, hnumber, hlong, -⟩ := (hending.fault_iff f).mp hfault
      have hnumbered := (Saving.byteCount_numberedName (ofDocument markdown m) hnumber).2
      have hlimit : Path.maxName = 255 := rfl
      omega

/-- A title of 73 ideographs makes a name of 255 bytes, which gets the file. -/
theorem save_ofDocument_of_long_title :
    let markdown := "# ".toList ++ List.replicate 73 '一'
    let m : Moment := ⟨2024, 1, 2, 3, 4, 5⟩
    let b := Sandbox.ofDisk ⟨[(["out".toList], .directory)], []⟩ m
    let host := Sandbox.host Record.line fun _ _ _ disk => (.ended (.code 0), disk)
    Moment.ofParts? 2024 1 2 3 4 5 0 = some m ∧ (0 : Int) ≤ 2024 ∧ (2024 : Int) ≤ 9999 ∧
      b.disk.entry? b.disk.workingDir = some .directory ∧
      (Saving.ensureDir host "out".toList).run b = (.ok (), b) ∧
      Path.byteCount "out".toList + 1 + Path.maxName ≤ Path.maxPath ∧
      Path.byteCount (ofDocument markdown m) = 255 ∧
      ∃ p, (Saving.save host "out".toList (ofDocument markdown m) "x".toList).run b =
        (.ok (ofDocument markdown m),
          Saving.withFile b (ofDocument markdown m :: p) "x".toList) := by
  intro markdown m b host
  have hmoment : Moment.ofParts? 2024 1 2 3 4 5 0 = some m := by decide
  have hworking : b.disk.entry? b.disk.workingDir = some .directory := rfl
  have hensured : (Saving.ensureDir host "out".toList).run b = (.ok (), b) := rfl
  have hroom : Path.byteCount "out".toList + 1 + Path.maxName ≤ Path.maxPath := by decide
  have hbytes : Path.byteCount (ofDocument markdown m) = 255 := by decide +kernel
  obtain ⟨-, -, -, -, -, -, -, hsave⟩ := save_ofDocument markdown hmoment ⟨by decide, by decide⟩
  obtain ⟨p, hp, hfree, -⟩ := hsave Record.line (fun _ _ _ disk => (.ended (.code 0), disk))
    "out".toList "x".toList b b hworking hensured hroom
  have hplace : p = ["out".toList] := (Except.ok.inj hp.walk).symm
  refine ⟨hmoment, by decide, by decide, hworking, hensured, hroom, hbytes, p, ?_⟩
  refine hfree (Nat.le_of_eq hbytes) ?_
  rw [hplace]
  decide +kernel

/-- One ideograph more, and no file can have the name. A title of eighty, the most that are kept, makes
276 bytes. -/
theorem save_ofDocument_fails :
    let m : Moment := ⟨2024, 1, 2, 3, 4, 5⟩
    let b := Sandbox.ofDisk ⟨[(["out".toList], .directory)], []⟩ m
    let host := Sandbox.host Record.line fun _ _ _ disk => (.ended (.code 0), disk)
    Moment.ofParts? 2024 1 2 3 4 5 0 = some m ∧
      (∀ n ∈ [74, 80], ((Saving.save host "out".toList
        (ofDocument ("# ".toList ++ List.replicate n '一') m) "x".toList).run b).1 =
          .error (.fault .nameTooLong)) ∧
      Path.byteCount (ofDocument ("# ".toList ++ List.replicate 80 '一') m) = 276 := by
  decide +kernel

end FileName

end ChatScribe
