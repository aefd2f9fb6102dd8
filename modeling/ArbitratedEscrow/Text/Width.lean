import ArbitratedEscrow.Text.Classes

/-!
# Columns that a text takes

How many columns of a terminal a text takes. Most characters take as many as they
take alone: none if they join the one before them or are not seen, two for East
Asian characters and for pictures, one otherwise. But a selector changes how the
character before it is drawn, several pictures may be joined to one, and letters
of some scripts merge with the letter before them. So a text is measured from
its end, and a character is measured beside what follows it.
-/

namespace ArbitratedEscrow.Text

/-- How a selector wants the character before it to be drawn. -/
inductive Selector where
  | sign
  | picture
  | wide
deriving DecidableEq

def Selector.ofChar? (c : Char) : Option Selector :=
  if c = '\ufe01' then some wide
  else if c = '\ufe0e' then some sign
  else if c = '\ufe0f' then some picture
  else none

/-- What follows a character, as far as the two may be drawn together. -/
inductive Follower where
  | other
  | lineBreak
  /-- A tone of skin. -/
  | tone
  /-- A letter of a flag, or several of them. -/
  | flagLetter
  | flagLetters
  | picture
  /-- A joiner and then a picture. -/
  | joined
  /-- A keycap, a joiner and then a picture. -/
  | joinedKeycap
  /-- Flag letters of which the last is followed by a picture: one, an even or odd number. -/
  | joinedLetter
  | joinedPairs
  | joinedOdd
  /-- The tags of a flag, from their end, behind them a joiner's picture. -/
  | tagEnd
  | tagLetters (count : Nat)
  | tagDigits (count : Nat)
  /-- Arabic. -/
  | alef
  /-- Hebrew. -/
  | lamed (joiner : Bool)
  /-- Khmer: a letter that a sign can put below the letter before it. -/
  | subscript
  /-- Buginese. -/
  | ya (joiner : Bool)
  | vowelYa
  /-- Tifinagh. -/
  | consonant (joiner : Bool)
  | joinedConsonant
  /-- Lisu. -/
  | lowTone
  /-- Old Turkic. -/
  | orkhonI (joiner : Bool)
  /-- Kirat Rai. -/
  | vowelE
  | vowelAi
deriving DecidableEq

namespace Follower

/-- Letters, for which selectors before them do not matter. -/
def isLetter : Follower → Bool
  | alef | lamed _ | subscript | ya _ | vowelYa | consonant _ | joinedConsonant | lowTone
  | orkhonI _ | vowelE | vowelAi => true
  | _ => false

def withJoiner : Follower → Follower
  | lamed _ => lamed true
  | ya _ => ya true
  | consonant _ => consonant true
  | orkhonI _ => orkhonI true
  | follower => follower

end Follower

def between (first last : Nat) (c : Char) : Bool := first ≤ c.toNat && c.toNat ≤ last

def isJoiner (c : Char) : Bool := c = '\u200d'

def isFlagLetter : Char → Bool := between 0x1F1E6 0x1F1FF

def isTone : Char → Bool := between 0x1F3FB 0x1F3FF

def isTagLetter : Char → Bool := between 0xE0061 0xE007A

def isTagDigit : Char → Bool := between 0xE0030 0xE0039

def isQuote : Char → Bool := within [(0x2018, 0x2019), (0x201C, 0x201D)]

/-- Arabic letters that start a ligature with an alef behind them. -/
def isLam : Char → Bool :=
  within [(0x644, 0x644), (0x6B5, 0x6B8), (0x76A, 0x76A), (0x8A6, 0x8A6), (0x8C7, 0x8C7)]

def isAlef : Char → Bool :=
  within [(0x622, 0x623), (0x625, 0x625), (0x627, 0x627), (0x671, 0x673), (0x675, 0x675),
    (0x773, 0x774), (0x870, 0x882)]

def isSubscript : Char → Bool :=
  within [(0x1780, 0x1782), (0x1784, 0x1787), (0x1789, 0x178C), (0x178E, 0x1793),
    (0x1795, 0x1798), (0x179B, 0x179D), (0x17A0, 0x17A0), (0x17A2, 0x17A2), (0x17A7, 0x17A7),
    (0x17AB, 0x17AC), (0x17AF, 0x17AF)]

def isConsonant : Char → Bool := within [(0x2D31, 0x2D65), (0x2D6F, 0x2D6F)]

/--
Kinds of characters: what one takes with nothing to be drawn together with, and
what it is to the one before it. The first kind that a character is of counts.
-/
def kinds : List ((Char → Bool) × Int × Follower) :=
  [(between 0xA 0xA, 1, .lineBreak),
    (between 0 0xA0, 1, .other),
    (isFlagLetter, 1, .flagLetter),
    (isTone, 2, .tone),
    (within pictures, 2, .picture),
    (isAlef, 1, .alef),
    (between 0x5DC 0x5DC, 1, .lamed false),
    (isSubscript, 1, .subscript),
    (between 0x17D8 0x17D8, 3, .other),
    (between 0x1A10 0x1A10, 1, .ya false),
    (isConsonant, 1, .consonant false),
    (between 0xA4FC 0xA4FD, 1, .lowTone),
    (between 0x10C03 0x10C03, 1, .orkhonI false),
    (between 0x16D67 0x16D67, 1, .vowelE),
    (between 0x16D68 0x16D68, 1, .vowelAi),
    (within zeroWidth, 0, .other),
    (within doubleWidth, 2, .other)]

/-- What a character takes with nothing to be drawn together with: one column for most. -/
def alone (c : Char) : Int × Follower :=
  ((kinds.find? fun kind => kind.1 c).map (·.2)).getD (1, .other)

/-- What a part of a picture adds to the parts that follow it. -/
def addPart? (c : Char) : Follower → Option (Int × Follower)
  | .tone =>
    if within bodies c then some (0, .picture)
    else if isJoiner c then some (0, .joined)
    else none
  | .flagLetter => if isFlagLetter c then some (1, .flagLetters) else none
  | .flagLetters =>
    if isFlagLetter c then some (1, .flagLetters)
    else if isJoiner c then some (0, .joined)
    else none
  | .picture => if isJoiner c then some (0, .joined) else none
  | .joined =>
    if c = '\u20e3' then some (0, .joinedKeycap)
    else if isFlagLetter c then some (1, .joinedLetter)
    else if isTone c then some (0, .tone)
    else if c.toNat = 0xE007F then some (0, .tagEnd)
    else if within pictures c then some (0, .picture)
    else none
  | .joinedLetter => if isFlagLetter c then some (-1, .joinedPairs) else none
  | .joinedPairs =>
    if isFlagLetter c then some (3, .joinedOdd)
    else if isJoiner c then some (0, .joined)
    else none
  | .joinedOdd =>
    if isFlagLetter c then some (-1, .joinedPairs)
    else if isJoiner c then some (0, .joined)
    else none
  | .tagEnd =>
    if isTagLetter c then some (0, .tagLetters 1)
    else if isTagDigit c then some (0, .tagDigits 1)
    else none
  | .tagLetters n =>
    if isTagLetter c ∧ n < 6 then some (0, .tagLetters (n + 1))
    else if isTagDigit c ∧ n ≤ 4 then some (0, .tagDigits 1)
    else if c.toNat = 0x1F3F4 ∧ 3 ≤ n then some (0, .picture)
    else none
  | .tagDigits n =>
    if isTagDigit c ∧ n < 3 then some (0, .tagDigits (n + 1))
    else if c.toNat = 0x1F3F4 ∧ n = 3 then some (0, .picture)
    else none
  | _ => none

/-- What a letter adds to the letter that it merges with. -/
def addLetter? (c : Char) : Follower → Option (Int × Follower)
  | .lamed true => if c.toNat = 0x5D0 then some (0, .other) else none
  | .subscript => if c.toNat = 0x17D2 then some (-1, .other) else none
  | .ya true => if c.toNat = 0x1A17 then some (0, .vowelYa) else none
  | .vowelYa => if c.toNat = 0x1A15 then some (0, .other) else none
  | .consonant joiner =>
    if c.toNat = 0x2D7F then some (1, .joinedConsonant)
    else if joiner && isConsonant c then some (0, .other)
    else none
  | .joinedConsonant => if isConsonant c then some (-1, .other) else none
  | .lowTone => if between 0xA4F8 0xA4FB c then some (0, .other) else none
  | .orkhonI true => if c.toNat = 0x10C32 then some (0, .other) else none
  | .vowelE =>
    if c.toNat = 0x16D63 ∨ c.toNat = 0x16D69 then some (0, .other)
    else if c.toNat = 0x16D67 then some (0, .vowelAi)
    else if c.toNat = 0x16D68 then some (1, .vowelE)
    else none
  | .vowelAi => if c.toNat = 0x16D63 then some (0, .other) else none
  | _ => none

/--
What a character adds to what it is drawn together with. Marks without an effect
part no letters, nor do joiners; between lam and alef any mark may stand.
-/
def add? (c : Char) : Follower → Option (Int × Follower)
  | .lineBreak => if c = '\r' then some (0, .other) else none
  | .alef =>
    if isLam c then some (0, .other)
    else if within zeroWidth c && !within barriers c then some (0, .alef)
    else none
  | follower =>
    if !follower.isLetter then addPart? c follower
    else if isJoiner c then some (0, follower.withJoiner)
    else if within ignorableMarks c then some (0, follower)
    else addLetter? c follower

structure Context where
  selector : Option Selector := none
  follower : Follower := .other

namespace Context

/-- What a character takes if the selector behind it applies to it. -/
def select? (c : Char) (after : Context) : Option (Int × Follower) :=
  match after.selector with
  | none => none
  | some .picture =>
    if within signs c || within restyled c then
      some (if after.follower = .joined ∨ after.follower = .joinedKeycap then 0 else 2, .picture)
    else none
  | some .sign =>
    if within restyled c && !between 0x1F200 0x1F2FF c then some (1, .other) else none
  | some .wide => if isQuote c then some (2, .other) else none

/-- What follows a character that the selector behind it does not apply to. -/
def withoutSelector (after : Context) : Follower :=
  if after.selector = none ∨ after.follower.isLetter then after.follower else .other

/-- A selector before something else. Only letters and joined pictures matter through it. -/
def ofSelector (selector : Selector) (follower : Follower) : Context :=
  let through := follower.isLetter ||
    (selector = .picture && (follower = .joined || follower = .joinedKeycap))
  ⟨some selector, if through then follower else .other⟩

/-- The columns that a character adds to what follows it, and what follows the one before it. -/
def step (c : Char) (after : Context) : Int × Context :=
  match after.select? c with
  | some (columns, follower) => (columns, ⟨none, follower⟩)
  | none =>
    match Selector.ofChar? c with
    | some selector => (0, ofSelector selector after.withoutSelector)
    | none =>
      let (columns, follower) := (add? c after.withoutSelector).getD (alone c)
      (columns, ⟨none, follower⟩)

end Context

/-- The columns that a text takes before something else, and what it is to a text before it. -/
def measure (s : List Char) (start : Int × Context) : Int × Context :=
  s.foldr (fun c after => let (columns, before) := Context.step c after.2
    (after.1 + columns, before)) start

def width (s : List Char) : Nat := (measure s (0, {})).1.toNat

def padRight (columns : Nat) (s : List Char) : List Char :=
  s ++ List.replicate (columns - width s) ' '

end ArbitratedEscrow.Text
