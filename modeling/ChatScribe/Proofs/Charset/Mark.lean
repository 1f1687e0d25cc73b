import ChatScribe.Charset.Reading
import ChatScribe.Proofs.Charset.Utf16

/-!
# Pages with a byte order mark

A page that starts with a mark is read in the encoding that the mark names, whatever its content type and
its meta tags say. The mark is taken off once, and everything behind it is text, another mark included.
Reading such a page and writing a text behind a mark undo each other (`read_mark_append`).
-/

namespace ChatScribe.Charset

/-- The forms of Unicode that a mark can name. -/
inductive Form
  | utf8
  | utf16 (order : ByteOrder)
deriving DecidableEq, Repr

namespace Form

def charset : Form → Charset
  | utf8 => .utf8
  | utf16 order => .utf16 order

/-- The name that an encoding goes by. -/
def name : Form → String
  | utf8 => "UTF-8"
  | utf16 .big => "UTF-16BE"
  | utf16 .little => "UTF-16LE"

/-- The bytes in front of a page. -/
def mark : Form → List UInt8
  | utf8 => [0xEF, 0xBB, 0xBF]
  | utf16 .big => [0xFE, 0xFF]
  | utf16 .little => [0xFF, 0xFE]

def encode : Form → Text → List UInt8
  | utf8, t => Utf8.encode t
  | utf16 order, t => Utf16.encode order t

/-- Are these the bytes of whole characters, each written as it has to be? -/
def WellFormed : Form → List UInt8 → Prop
  | utf8, bs => Utf8.WellFormed bs
  | utf16 order, bs => Utf16.WellFormed order bs

variable {f : Form} {bs : List UInt8} {t : Text}

theorem name_charset (f : Form) : f.charset.name = f.name := by
  rcases f with _ | _ | _ <;> rfl

/-- The mark is how the character U+FEFF is written. -/
theorem mark_eq_encode (f : Form) : f.mark = f.encode ['\uFEFF'] := by
  rcases f with _ | _ | _ <;> decide

theorem ofMark?_mark_append (f : Form) (bs : List UInt8) :
    ofMark? (f.mark ++ bs) = some (f.charset, bs) := by
  rcases f with _ | _ | _ <;> rfl

/-- Decoding undoes encoding, and decodes nothing else. -/
theorem decode?_eq_some_iff : decode? f.charset bs = some t ↔ f.encode t = bs := by
  constructor
  · intro h
    cases f with
    | utf8 => exact (Utf8.eq_encode_of_decode? h).symm
    | utf16 order => exact (Utf16.eq_encode_of_decode? h).symm
  · rintro rfl
    cases f with
    | utf8 => exact Utf8.decode?_encode t
    | utf16 order => exact Utf16.decode?_encode order t

theorem wellFormed_iff_exists_encode : f.WellFormed bs ↔ ∃ t, bs = f.encode t := by
  cases f with
  | utf8 => exact Utf8.wellFormed_iff_exists_encode
  | utf16 order => exact Utf16.wellFormed_iff_exists_encode

theorem exists_decode?_iff : (∃ t, decode? f.charset bs = some t) ↔ f.WellFormed bs := by
  rw [wellFormed_iff_exists_encode]
  constructor
  · rintro ⟨t, ht⟩
    exact ⟨t, (decode?_eq_some_iff.mp ht).symm⟩
  · rintro ⟨t, rfl⟩
    exact ⟨t, decode?_eq_some_iff.mpr rfl⟩

end Form

section

variable {f : Form} {bs : List UInt8} {contentType? : Option Text}

/-- Behind a mark nothing but the bytes counts. -/
theorem read_mark (f : Form) (bs : List UInt8) (contentType? : Option Text) :
    read (f.mark ++ bs) contentType? = readIn f.charset .byteOrderMark bs := by
  rw [read, Form.ofMark?_mark_append]

theorem readIn_eq_ok_iff {c : Charset} {w : Witness} {r : Reading} :
    readIn c w bs = .ok r ↔ decode? c bs = some r.text ∧ r.charset = c ∧ r.witness = w := by
  unfold readIn
  cases decode? c bs with
  | none => exact ⟨fun h => (nomatch h), fun h => (nomatch h.1)⟩
  | some t =>
    constructor
    · intro h
      cases h
      exact ⟨rfl, rfl, rfl⟩
    · rintro ⟨ht, rfl, rfl⟩
      rw [Option.some.inj ht]

/-- What is malformed is not read, and the encoding is named. -/
theorem readIn_eq_error_iff {c : Charset} {w : Witness} :
    readIn c w bs = .error ⟨c⟩ ↔ ¬ ∃ t, decode? c bs = some t := by
  unfold readIn
  cases decode? c bs with
  | none => exact ⟨fun _ ⟨_, ht⟩ => (nomatch ht), fun _ => rfl⟩
  | some t => exact ⟨fun h => (nomatch h), fun h => absurd ⟨t, rfl⟩ h⟩

end

/-- A page with a mark in front is read back as it was written, whatever text it is and whatever its
content type says. The bytes behind a mark are read exactly if they are well formed, as the one text
that is written so, and the encoding is the one that the mark names. All others are an error. -/
theorem read_mark_append (f : Form) (contentType? : Option Text) :
    (∀ t, read (f.mark ++ f.encode t) contentType? = .ok ⟨t, f.charset, .byteOrderMark⟩) ∧
    (∀ bs, (∃ r, read (f.mark ++ bs) contentType? = .ok r) ↔ f.WellFormed bs) ∧
    (∀ bs r, read (f.mark ++ bs) contentType? = .ok r ↔
      f.encode r.text = bs ∧ r.charset = f.charset ∧ r.witness = .byteOrderMark) ∧
    (∀ bs, read (f.mark ++ bs) contentType? = .error ⟨f.charset⟩ ↔ ¬ f.WellFormed bs) ∧
    f.charset.name = f.name := by
  have hok : ∀ bs r, read (f.mark ++ bs) contentType? = .ok r ↔
      f.encode r.text = bs ∧ r.charset = f.charset ∧ r.witness = .byteOrderMark := by
    intro bs r
    rw [read_mark, readIn_eq_ok_iff, Form.decode?_eq_some_iff]
  refine ⟨?_, ?_, hok, ?_, f.name_charset⟩
  · intro t
    exact (hok _ _).mpr ⟨rfl, rfl, rfl⟩
  · intro bs
    rw [Form.wellFormed_iff_exists_encode]
    constructor
    · rintro ⟨r, hr⟩
      exact ⟨r.text, ((hok bs r).mp hr).1.symm⟩
    · rintro ⟨t, rfl⟩
      exact ⟨_, (hok _ ⟨t, f.charset, .byteOrderMark⟩).mpr ⟨rfl, rfl, rfl⟩⟩
  · intro bs
    rw [read_mark, readIn_eq_error_iff, Form.exists_decode?_iff]

end ChatScribe.Charset
