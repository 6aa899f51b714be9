import CollectionQuery.Json.Reader

/-!
# Layouts of JSON documents

A *layout* is a document together with all that its text is free to choose: the blanks between the
parts, the escapes in texts and the digits of numbers.  `chars` is the text of a layout, and
`document` is what it writes.  A text writes a document if it is that of one of its layouts.

Two escapes in a row that are the halves of a surrogate pair stand for one code point, and a half
that is not in such a pair stands for itself.  A number without point and exponent has at most as
many digits as an integer may have.
-/

namespace CollectionQuery.Json

open CollectionQuery.Number CollectionQuery.Text

/-- Blanks between the parts of a document. -/
structure Blanks where
  chars : List Char
  blank : ∀ c ∈ chars, isSpace c = true

instance : Inhabited Blanks := ⟨⟨[], by simp⟩⟩

/-! ## Texts -/

/-- A character as it stands in a text. -/
inductive TextPart where
  /-- The character itself. -/
  | plain (c : Char) (quote : c ≠ '"') (backslash : c ≠ '\\') (control : 32 ≤ c.toNat)
  /-- A letter behind a backslash. -/
  | letter (e c : Char) (known : escape? e = some c)
  /-- Four hexadecimal digits. -/
  | code (a b c d : Char) (n : Nat) (digits : hex4? a b c d = some n)

namespace TextPart

def chars : TextPart → List Char
  | plain c _ _ _ => [c]
  | letter e _ _ => ['\\', e]
  | code a b c d _ _ => ['\\', 'u', a, b, c, d]

/-- The code point that is meant if the part is no half of a pair. -/
def point : TextPart → CodePoint
  | plain c _ _ _ => .char c
  | letter _ c _ => .char c
  | code _ _ _ _ n _ => .ofNat n

/-- The code point that two parts are the halves of. -/
def pair? : TextPart → TextPart → Option CodePoint
  | code _ _ _ _ m _, code _ _ _ _ n _ =>
    if isHighSurrogate m ∧ isLowSurrogate n then some (.ofPair m n) else none
  | _, _ => none

end TextPart

/-- The characters of a text between its quotes. -/
def textChars (parts : List TextPart) : List Char := parts.flatMap TextPart.chars

/-- The code points that are meant. -/
def pointsOf : List TextPart → List CodePoint
  | [] => []
  | [part] => [part.point]
  | part :: next :: rest => match part.pair? next with
    | some p => p :: pointsOf rest
    | none => part.point :: pointsOf (next :: rest)

/-- The text that is meant. -/
def textOf (parts : List TextPart) : AnyText := .ofPoints (pointsOf parts)

/-- Whether a character stands for itself in a text. -/
def isPlain (c : Char) : Bool := c != '"' && (c != '\\' && decide (32 ≤ c.toNat))

theorem isPlain_iff {c : Char} : isPlain c = true ↔ c ≠ '"' ∧ c ≠ '\\' ∧ 32 ≤ c.toNat := by
  simp [isPlain]

/-- A text in which every character stands for itself. -/
def plainText (s : String) (h : s.toList.all isPlain = true) : List TextPart :=
  s.toList.pmap (fun c hc => .plain c hc.1 hc.2.1 hc.2.2)
    fun c hc => isPlain_iff.1 (List.all_eq_true.1 h c hc)

theorem pointsOf_plain : ∀ (cs : List Char) (h : ∀ c ∈ cs, c ≠ '"' ∧ c ≠ '\\' ∧ 32 ≤ c.toNat),
    pointsOf (cs.pmap (fun c hc => .plain c hc.1 hc.2.1 hc.2.2) h) = cs.map .char
  | [], _ => rfl
  | [_], _ => rfl
  | c :: d :: cs, h =>
    congrArg (CodePoint.char c :: ·) (pointsOf_plain (d :: cs) (List.forall_mem_cons.1 h).2)

@[simp] theorem textOf_plainText {s : String} (h : s.toList.all isPlain = true) :
    textOf (plainText s h) = .whole s := by
  rw [textOf, plainText, pointsOf_plain, AnyText.ofPoints_char, String.ofList_toList]

/-! ## Numbers -/

/-- Decimal digits, at least one. -/
structure Digits where
  chars : List Char
  nonempty : chars ≠ []
  digits : ∀ c ∈ chars, c.isDigit = true

/-- The exponent of a number. -/
structure Power where
  mark : Char
  mark_ok : mark = 'e' ∨ mark = 'E'
  sign : List Char
  sign_ok : sign = [] ∨ sign = ['+'] ∨ sign = ['-']
  digits : Digits

def Power.chars (p : Power) : List Char := p.mark :: (p.sign ++ p.digits.chars)

def Power.value (p : Power) : Int :=
  if p.sign = ['-'] then -(ofDigits p.digits.chars : Int) else ofDigits p.digits.chars

/-- A number as it stands in a document. -/
structure NumberLayout where
  negative : Bool
  whole : Digits
  /-- A zero stands in front of a point only alone. -/
  leading : whole.chars.head? = some '0' → whole.chars = ['0']
  places : Option Digits
  power : Option Power
  /-- Integers are not too long. -/
  short : places = none → power = none → whole.chars.length ≤ integerDigitLimit

namespace NumberLayout

/-- The digits behind the point. -/
def placeDigits (n : NumberLayout) : List Char := n.places.elim [] Digits.chars

def placeChars (n : NumberLayout) : List Char := n.places.elim [] fun d => '.' :: d.chars

def powerChars (n : NumberLayout) : List Char := n.power.elim [] Power.chars

def signChars (n : NumberLayout) : List Char := if n.negative then ['-'] else []

def chars (n : NumberLayout) : List Char :=
  n.signChars ++ (n.whole.chars ++ (n.placeChars ++ n.powerChars))

/-- The number that is written: an integer, or what is nearest to it among the floating point
numbers. -/
def document (n : NumberLayout) : Json :=
  if n.places.isNone ∧ n.power.isNone then
    .int (if n.negative then -(ofDigits n.whole.chars : Int) else ofDigits n.whole.chars)
  else
    .float (Binary64.ofDecimal n.negative (ofDigits (n.whole.chars ++ n.placeDigits))
      ((n.power.map Power.value).getD 0 - (n.placeDigits.length : Int)))

end NumberLayout

/-! ## Documents -/

mutual

/-- A document as it is written. -/
inductive Layout where
  | named (n : List Char × Json) (known : n ∈ names)
  | number (n : NumberLayout)
  | text (parts : List TextPart)
  | emptyList (inside : Blanks)
  | list (before : Blanks) (items : ItemsLayout)
  | emptyObject (inside : Blanks)
  | object (before : Blanks) (members : MembersLayout)

/-- The items of a list, at least one, up to its end. -/
inductive ItemsLayout where
  | last (item : Layout) (after : Blanks)
  | more (item : Layout) (after before : Blanks) (rest : ItemsLayout)

/-- The members of an object, at least one, up to its end. -/
inductive MembersLayout where
  | last (name : List TextPart) (beforeColon afterColon : Blanks) (item : Layout) (after : Blanks)
  | more (name : List TextPart) (beforeColon afterColon : Blanks) (item : Layout)
      (after before : Blanks) (rest : MembersLayout)

end

mutual

def Layout.chars : Layout → List Char
  | .named n _ => n.1
  | .number n => n.chars
  | .text parts => '"' :: (textChars parts ++ ['"'])
  | .emptyList inside => '[' :: (inside.chars ++ [']'])
  | .list before items => '[' :: (before.chars ++ items.chars)
  | .emptyObject inside => '\x7b' :: (inside.chars ++ ['\x7d'])
  | .object before members => '\x7b' :: (before.chars ++ members.chars)

/-- The items with the bracket behind them. -/
def ItemsLayout.chars : ItemsLayout → List Char
  | .last item after => item.chars ++ (after.chars ++ [']'])
  | .more item after before rest =>
    item.chars ++ (after.chars ++ ',' :: (before.chars ++ rest.chars))

/-- The members with the brace behind them. -/
def MembersLayout.chars : MembersLayout → List Char
  | .last name beforeColon afterColon item after =>
    '"' :: (textChars name ++ '"' :: (beforeColon.chars ++ ':' :: (afterColon.chars ++
      (item.chars ++ (after.chars ++ ['\x7d'])))))
  | .more name beforeColon afterColon item after before rest =>
    '"' :: (textChars name ++ '"' :: (beforeColon.chars ++ ':' :: (afterColon.chars ++
      (item.chars ++ (after.chars ++ ',' :: (before.chars ++ rest.chars))))))

end

mutual

/-- The document that a layout writes. -/
def Layout.document : Layout → Json
  | .named n _ => n.2
  | .number n => n.document
  | .text parts => .text (textOf parts)
  | .emptyList _ => .list []
  | .list _ items => .list items.documents
  | .emptyObject _ => .object []
  | .object _ members => .object members.documents

def ItemsLayout.documents : ItemsLayout → List Json
  | .last item _ => [item.document]
  | .more item _ _ rest => item.document :: rest.documents

def MembersLayout.documents : MembersLayout → List (AnyText × Json)
  | .last name _ _ item _ => [(textOf name, item.document)]
  | .more name _ _ item _ _ rest => (textOf name, item.document) :: rest.documents

end

/-- Whether a text writes a document, with blanks of any kind around it. -/
def Writes (text : String) (j : Json) : Prop :=
  ∃ (before after : List Char) (l : Layout), (∀ c ∈ before, isBlank c = true) ∧
    (∀ c ∈ after, isBlank c = true) ∧ text.toList = before ++ (l.chars ++ after) ∧ l.document = j

end CollectionQuery.Json
