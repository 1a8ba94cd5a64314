import Mathlib.Data.List.Forall2
import Roster.Employee
import Roster.Json.Skip
import Roster.Text.Hex

/-!
# `Roster.Proofs.Json.Grammar`: what the texts are

The grammar of JSON on characters, apart from any reader, and on top of
it the texts that spell a record or a list of records.

A string has two readings. `Body` is what may stand between its quotes;
a code unit may there be any four digits. `Spelled` says which text a
body stands for, and leaves out bodies with a surrogate that has no
partner: these stand for no text.

A value in brackets is a row of elements with commas between them. The
element of an array is a value with blanks around it; that of an object
has a name and a colon before the value. `Derives` gathers values and
elements in one definition, so that there is one induction over both.
-/

set_option autoImplicit false

namespace Roster.Json

/-! ### Blanks and rows -/

/-- A character that may stand between tokens. -/
def IsBlank (c : Char) : Prop :=
  c = ' ' ∨ c = '\t' ∨ c = '\n' ∨ c = '\r'

instance (c : Char) : Decidable (IsBlank c) :=
  inferInstanceAs (Decidable (_ ∨ _))

/-- Nothing but blanks. -/
def Blanks (cs : List Char) : Prop :=
  ∀ c ∈ cs, IsBlank c

/-- Texts in a row, with commas between them. -/
def row (texts : List (List Char)) : List Char :=
  List.intercalate [','] texts

/-- Texts in a row, with a comma after each. -/
def led (texts : List (List Char)) : List Char :=
  texts.flatMap fun text => text ++ [',']

theorem Blanks.nil : Blanks [] :=
  fun _ h => nomatch h

theorem Blanks.append {cs ds : List Char} (hc : Blanks cs) (hd : Blanks ds) :
    Blanks (cs ++ ds) := by
  intro c h
  rcases List.mem_append.mp h with h | h
  · exact hc c h
  · exact hd c h

theorem Blanks.snoc {cs : List Char} {c : Char} (h : Blanks cs) (hc : IsBlank c) :
    Blanks (cs ++ [c]) :=
  h.append fun _ hmem => List.mem_singleton.mp hmem ▸ hc

theorem row_cons_cons (text next : List Char) (texts : List (List Char)) :
    row (text :: next :: texts) = text ++ ',' :: row (next :: texts) := by
  simp [row, List.intercalate, List.intersperse]

theorem row_singleton (text : List Char) : row [text] = text := by
  simp [row, List.intercalate]

theorem led_snoc (texts : List (List Char)) (text : List Char) :
    led (texts ++ [text]) = led texts ++ text ++ [','] := by
  simp [led]

/-- The last text of a row has no comma after it. -/
theorem row_snoc (texts : List (List Char)) (last : List Char) :
    row (texts ++ [last]) = led texts ++ last := by
  induction texts with
  | nil => exact row_singleton last
  | cons text rest ih =>
    cases rest with
    | nil => simp [row_cons_cons, row_singleton, led]
    | cons next more =>
      have hsplit : text :: next :: more ++ [last] = text :: next :: (more ++ [last]) := rfl
      rw [hsplit, row_cons_cons]
      rw [show next :: (more ++ [last]) = next :: more ++ [last] from rfl, ih]
      simp [led]

/-! ### Numbers -/

/-- Some digits, and at least one. -/
structure Digits (ds : List Char) : Prop where
  some : ds ≠ []
  digits : ∀ d ∈ ds, d.isDigit = true

/-- The digits before the point: zero alone, or digits of which the
first is not zero. -/
inductive Whole : List Char → Prop where
  | zero : Whole ['0']
  | more (d : Char) (ds : List Char) (hfirst : d.isDigit = true) (hzero : d ≠ '0')
      (hrest : ∀ c ∈ ds, c.isDigit = true) : Whole (d :: ds)

/-- The point and the digits behind it. -/
inductive Fraction : List Char → Prop where
  | none : Fraction []
  | some (ds : List Char) (h : Digits ds) : Fraction ('.' :: ds)

/-- The exponent and the mark before it. -/
inductive Exponent : List Char → Prop where
  | none : Exponent []
  | some (mark : Char) (sign ds : List Char) (hmark : mark = 'e' ∨ mark = 'E')
      (hsign : sign = [] ∨ sign = ['+'] ∨ sign = ['-']) (h : Digits ds) :
      Exponent (mark :: (sign ++ ds))

/-- A number, of any size. -/
inductive Number : List Char → Prop where
  | mk (sign whole fraction exponent : List Char) (hsign : sign = [] ∨ sign = ['-'])
      (hwhole : Whole whole) (hfraction : Fraction fraction) (hexponent : Exponent exponent) :
      Number (sign ++ whole ++ fraction ++ exponent)

/-! ### Strings -/

/-- A character that stands for itself in a string. -/
structure IsPlain (c : Char) : Prop where
  quote : c ≠ '"'
  backslash : c ≠ '\\'
  control : 0x20 ≤ c.toNat

/-- The letters that may follow a backslash, with the characters that
they stand for. -/
def shortEscapes : List (Char × Char) :=
  [('"', '"'), ('\\', '\\'), ('/', '/'), ('b', '\x08'), ('f', '\x0c'), ('n', '\n'),
    ('r', '\r'), ('t', '\t')]

/-- Four hexadecimal digits, and the number that they spell. -/
structure CodeUnit (ds : List Char) (n : Nat) : Prop where
  length : ds.length = 4
  digits : ∀ d ∈ ds, Text.isHexDigit d = true
  value : n = ds.foldl (fun n d => 16 * n + Text.hexDigitValue d) 0

/-- What may stand between the quotes of a string. -/
inductive Body : List Char → Prop where
  | nil : Body []
  | plain {body : List Char} (c : Char) (hc : IsPlain c) (h : Body body) : Body (c :: body)
  | short {body : List Char} (letter c : Char) (hc : (letter, c) ∈ shortEscapes)
      (h : Body body) : Body ('\\' :: letter :: body)
  | unit {body : List Char} (ds : List Char) (n : Nat) (hunit : CodeUnit ds n)
      (h : Body body) : Body ('\\' :: 'u' :: (ds ++ body))

/-- The body of a string stands for a text. A character is escaped as
one code unit that is no surrogate, or as two surrogates. -/
inductive Spelled : List Char → List Char → Prop where
  | nil : Spelled [] []
  | plain {body text : List Char} (c : Char) (hc : IsPlain c) (h : Spelled body text) :
      Spelled (c :: body) (c :: text)
  | short {body text : List Char} (letter c : Char) (hc : (letter, c) ∈ shortEscapes)
      (h : Spelled body text) : Spelled ('\\' :: letter :: body) (c :: text)
  | unit {body text : List Char} (ds : List Char) (c : Char) (hunit : CodeUnit ds c.toNat)
      (h : Spelled body text) : Spelled ('\\' :: 'u' :: (ds ++ body)) (c :: text)
  | pair {body text : List Char} (ds es : List Char) (lead trail : Nat) (c : Char)
      (hlead : CodeUnit ds lead) (hleads : 0xD800 ≤ lead ∧ lead ≤ 0xDBFF)
      (htrail : CodeUnit es trail) (htrails : 0xDC00 ≤ trail ∧ trail ≤ 0xDFFF)
      (hc : c.toNat = 0x10000 + (lead - 0xD800) * 0x400 + (trail - 0xDC00))
      (h : Spelled body text) :
      Spelled ('\\' :: 'u' :: (ds ++ '\\' :: 'u' :: (es ++ body))) (c :: text)

/-- A string. -/
def quoted (body : List Char) : List Char :=
  '"' :: (body ++ ['"'])

/-- A body that stands for a text is a body. -/
theorem Spelled.body {body text : List Char} (h : Spelled body text) : Body body := by
  induction h with
  | nil => exact .nil
  | plain c hc _ ih => exact .plain c hc ih
  | short letter c hc _ ih => exact .short letter c hc ih
  | unit ds c hunit _ ih => exact .unit ds c.toNat hunit ih
  | pair ds es lead trail c hlead _ htrail _ _ _ ih =>
    exact .unit ds lead hlead (.unit es trail htrail ih)

theorem Body.append {body more : List Char} (h : Body body) (hmore : Body more) :
    Body (body ++ more) := by
  induction h with
  | nil => exact hmore
  | plain c hc _ ih => exact .plain c hc ih
  | short letter c hc _ ih => exact .short letter c hc ih
  | unit ds n hunit _ ih =>
    rw [List.cons_append, List.cons_append, List.append_assoc]
    exact .unit ds n hunit ih

theorem Spelled.append {body text more moreText : List Char} (h : Spelled body text)
    (hmore : Spelled more moreText) : Spelled (body ++ more) (text ++ moreText) := by
  induction h with
  | nil => exact hmore
  | plain c hc _ ih => exact .plain c hc ih
  | short letter c hc _ ih => exact .short letter c hc ih
  | unit ds c hunit _ ih =>
    rw [List.cons_append, List.cons_append, List.append_assoc]
    exact .unit ds c hunit ih
  | pair ds es lead trail c hlead hleads htrail htrails hc _ ih =>
    simp only [List.cons_append, List.append_assoc]
    exact .pair ds es lead trail c hlead hleads htrail htrails hc ih

/-! ### Values -/

/-- The character that opens a bracket. -/
def Bracket.left : Bracket → Char
  | .list => '['
  | .object => '{'

/-- The character that closes a bracket. -/
def Bracket.right : Bracket → Char
  | .list => ']'
  | .object => '}'

/-- The values that are words. -/
def Word.chars : Word → List Char
  | .null => ['n', 'u', 'l', 'l']
  | .yes => ['t', 'r', 'u', 'e']
  | .no => ['f', 'a', 'l', 's', 'e']

/-- What the grammar derives. -/
inductive Symbol where
  | value
  /-- What stands between the commas inside a bracket. -/
  | element (bracket : Bracket)

/-- The texts that a symbol of the grammar derives. -/
inductive Derives : Symbol → List Char → Prop where
  | word (word : Word) : Derives .value word.chars
  | number (n : List Char) (h : Number n) : Derives .value n
  | text (body : List Char) (h : Body body) : Derives .value (quoted body)
  | empty (bracket : Bracket) (blanks : List Char) (h : Blanks blanks) :
      Derives .value (bracket.left :: (blanks ++ [bracket.right]))
  | filled (bracket : Bracket) (elements : List (List Char)) (hsome : elements ≠ [])
      (h : ∀ element ∈ elements, Derives (.element bracket) element) :
      Derives .value (bracket.left :: (row elements ++ [bracket.right]))
  | item (before value after : List Char) (hbefore : Blanks before) (h : Derives .value value)
      (hafter : Blanks after) : Derives (.element .list) (before ++ value ++ after)
  | member (before name after lead value trail : List Char) (hbefore : Blanks before)
      (hname : Body name) (hafter : Blanks after) (hlead : Blanks lead)
      (h : Derives .value value) (htrail : Blanks trail) :
      Derives (.element .object)
        (before ++ quoted name ++ after ++ ':' :: lead ++ value ++ trail)

/-- A well-formed value. -/
abbrev Value (text : List Char) : Prop :=
  Derives .value text

/-! ### Records -/

/-- A member of an object, with the text that its name stands for. -/
structure Entry where
  name : String
  beforeName : List Char
  body : List Char
  afterName : List Char
  beforeValue : List Char
  value : List Char
  afterValue : List Char

namespace Entry

/-- What stands before the value of a member. -/
def opening (entry : Entry) : List Char :=
  entry.beforeName ++ quoted entry.body ++ entry.afterName ++ ':' :: entry.beforeValue

/-- A member, as characters. -/
def chars (entry : Entry) : List Char :=
  entry.opening ++ entry.value ++ entry.afterValue

/-- A member has a name that stands for a text, and any value. -/
structure WellFormed (entry : Entry) : Prop where
  beforeName : Blanks entry.beforeName
  body : Spelled entry.body entry.name.toList
  afterName : Blanks entry.afterName
  beforeValue : Blanks entry.beforeValue
  value : Value entry.value
  afterValue : Blanks entry.afterValue

end Entry

/-- The value of a member is a string that stands for a text. -/
def IsText (value : List Char) (text : String) : Prop :=
  ∃ body, value = quoted body ∧ Spelled body text.toList

/-- A string that stands for a text is a value. -/
theorem IsText.value {value : List Char} {text : String} (h : IsText value text) :
    Value value := by
  obtain ⟨body, rfl, hbody⟩ := h
  exact .text body hbody.body

/-- Exactly one member has the name of a field, and its value is a
string that stands for a text. -/
def HasField (entries : List Entry) (field : Employee.Field) (text : String) : Prop :=
  ∃ entry, entries.filter (·.name = field.name) = [entry] ∧ IsText entry.value text

/-- A text spells a record: as an object with both fields among its
members, or as an array of the two names. -/
inductive RecordText : List Char → Employee → Prop where
  | object (entries : List Entry) (record : Employee)
      (hentries : ∀ entry ∈ entries, entry.WellFormed)
      (hfirst : HasField entries .firstName record.firstName)
      (hlast : HasField entries .lastName record.lastName) :
      RecordText ('{' :: (row (entries.map Entry.chars) ++ ['}'])) record
  | list (a first b c last d : List Char) (record : Employee)
      (ha : Blanks a) (hfirst : IsText first record.firstName) (hb : Blanks b)
      (hc : Blanks c) (hlast : IsText last record.lastName) (hd : Blanks d) :
      RecordText ('[' :: (row [a ++ first ++ b, c ++ last ++ d] ++ [']'])) record

/-- A text with blanks around what spells a record. -/
def PaddedRecord (text : List Char) (record : Employee) : Prop :=
  ∃ before body after, text = before ++ body ++ after ∧
    Blanks before ∧ RecordText body record ∧ Blanks after

/-- A text spells a list of records: an array of what spells them, one
element for each, in their order. -/
inductive ListText : List Char → List Employee → Prop where
  | empty (blanks : List Char) (h : Blanks blanks) : ListText ('[' :: (blanks ++ [']'])) []
  | filled (texts : List (List Char)) (records : List Employee) (hsome : records ≠ [])
      (h : List.Forall₂ PaddedRecord texts records) :
      ListText ('[' :: (row texts ++ [']'])) records

end Roster.Json
