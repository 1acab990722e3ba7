-- How many columns of a terminal a text takes. Characters that are drawn as
-- one count as one, so a text is read from its end: what stands behind a
-- character says how wide it is.
import Stride.Text.Emoji
import Stride.Text.Ligature

namespace Stride

/-! ## What stands behind -/

/-- What the text behind a character starts with, as far as it can be drawn
together with the character. Some letters are drawn together only if a joiner
stands between them, and pictures only if one does. -/
inductive Lead where
  | plain
  -- Letters.
  | alef
  | lamed (joined : Bool)
  | bugineseYa (joined : Bool)
  | bugineseVowelYa
  | tifinagh (joined : Bool)
  | tifinaghJoiner
  | lisuLowTone
  | orkhonI (joined : Bool)
  | khmer
  | raiVowelE
  | raiVowelAi
  -- Pictures, and flags made of two letters or more.
  | picture
  | tone
  | flagLetter
  | flagLetters
  -- The same behind a joiner, and the name of a region behind a flag.
  | joinedPicture
  | joinedKeycap
  | joinedFlagLetter
  | joinedFlag
  | joinedFlagAndLetter
  | tags (letters digits : Nat)
deriving DecidableEq, Repr

namespace Lead

/-- Letters of ligatures; a selector does not part them from what is before
it. -/
def isLetter : Lead → Bool
  | alef | lamed _ | bugineseYa _ | bugineseVowelYa | tifinagh _ | tifinaghJoiner | lisuLowTone
  | orkhonI _ | khmer => true
  | _ => false

def isJoinedPicture : Lead → Bool
  | joinedPicture | joinedKeycap => true
  | _ => false

def joined : Lead → Lead
  | lamed _ => lamed true
  | bugineseYa _ => bugineseYa true
  | tifinagh _ => tifinagh true
  | orkhonI _ => orkhonI true
  | lead => lead

/-- What a character starts when it is drawn for itself. -/
def ofChar (c : Char) : Lead :=
  if isAlef c then alef
  else if c = '\u05dc' then lamed false
  else if c = '\u1a10' then bugineseYa false
  else if isTifinaghConsonant c then tifinagh false
  else if isLisuLowTone c then lisuLowTone
  else if c.toNat = 0x10C03 then orkhonI false
  else if isKhmerSubscript c then khmer
  else if c.toNat = 0x16D67 then raiVowelE
  else if c.toNat = 0x16D68 then raiVowelAi
  else if isFlagLetter c then flagLetter
  else if isTone c then tone
  else if isPicture c then picture
  else plain

/-! ## Drawn as one -/

/-- The columns that a character adds to the text behind it if it is drawn
together with it, and what the two start. -/
def joinLetter? (lead : Lead) (c : Char) : Option (Int × Lead) :=
  match lead with
  | alef =>
    if isLam c then some (0, plain)
    else if isTransparentMark c then some (0, alef)
    else none
  | lamed true => if c = '\u05d0' then some (0, plain) else none
  | khmer => if c = '\u17d2' then some (-1, plain) else none
  | bugineseYa true => if c = '\u1a17' then some (0, bugineseVowelYa) else none
  | bugineseVowelYa => if c = '\u1a15' then some (0, plain) else none
  | tifinagh isJoined =>
    if c = '\u2d7f' then some (1, tifinaghJoiner)
    else if isJoined && isTifinaghConsonant c then some (0, plain)
    else none
  | tifinaghJoiner => if isTifinaghConsonant c then some (-1, plain) else none
  | lisuLowTone => if isLisuTone c then some (0, plain) else none
  | orkhonI true => if c.toNat = 0x10C32 then some (0, plain) else none
  | raiVowelE =>
    if c.toNat = 0x16D63 || c.toNat = 0x16D69 then some (0, plain)
    else if c.toNat = 0x16D67 then some (0, raiVowelAi)
    else if c.toNat = 0x16D68 then some (1, raiVowelE)
    else none
  | raiVowelAi => if c.toNat = 0x16D63 then some (0, plain) else none
  | _ => none

/-- Letters and digits that name a region, read from their end: up to six
letters, or three digits. -/
def joinTag? (letters digits : Nat) (c : Char) : Option (Int × Lead) :=
  if c.toNat = 0x1F3F4 && (letters ≥ 3 || digits = 3) then some (0, picture)
  else if isTagLetter c && digits = 0 && letters < 6 then some (0, tags (letters + 1) 0)
  else if isTagDigit c && (digits = 0 && letters ≤ 4 || digits = 1 || digits = 2) then
    some (0, tags 0 (digits + 1))
  else none

/-- Flags are two columns wide, and so is whatever is joined. A letter that
makes a flag of one joined to a picture moves columns to the other. -/
def joinPicture? (lead : Lead) (c : Char) : Option (Int × Lead) :=
  match lead with
  | tone =>
    if takesTone c then some (0, picture)
    else if c = '\u200d' then some (0, joinedPicture)
    else none
  | picture => if c = '\u200d' then some (0, joinedPicture) else none
  | flagLetter => if isFlagLetter c then some (1, flagLetters) else none
  | flagLetters =>
    if isFlagLetter c then some (1, flagLetters)
    else if c = '\u200d' then some (0, joinedPicture)
    else none
  | joinedPicture =>
    if c = '\u20e3' then some (0, joinedKeycap)
    else if isFlagLetter c then some (1, joinedFlagLetter)
    else if isTone c then some (0, tone)
    else if c.toNat = 0xE007F then some (0, tags 0 0)
    else if isPicture c then some (0, picture)
    else none
  | joinedFlagLetter => if isFlagLetter c then some (-1, joinedFlag) else none
  | joinedFlag =>
    if isFlagLetter c then some (3, joinedFlagAndLetter)
    else if c = '\u200d' then some (0, joinedPicture)
    else none
  | joinedFlagAndLetter =>
    if isFlagLetter c then some (-1, joinedFlag)
    else if c = '\u200d' then some (0, joinedPicture)
    else none
  | tags letters digits => joinTag? letters digits c
  | _ => none

def join? (lead : Lead) (c : Char) : Option (Int × Lead) :=
  if lead.isLetter && lead != alef && c = '\u200d' then some (0, lead.joined)
  else if lead.isLetter && lead != alef && isLigatureFiller c then some (0, lead)
  else if lead.isLetter || lead = raiVowelE || lead = raiVowelAi then lead.joinLetter? c
  else lead.joinPicture? c

end Lead

/-! ## Selectors -/

/-- The start of a text, and the selectors before it. -/
structure Opening where
  lead : Lead
  asPicture : Bool := false
  asText : Bool := false
  asQuote : Bool := false
deriving DecidableEq, Repr

namespace Opening

def plain : Opening := { lead := .plain }

/-- A selector for pictures, in sight of a picture or letters behind it. -/
def selectPicture (o : Opening) : Opening :=
  if o.lead.isLetter || o.lead.isJoinedPicture then { o with asPicture := true }
  else { lead := .plain, asPicture := true }

def selectText (o : Opening) : Opening :=
  if o.lead.isLetter then { o with asText := true } else { lead := .plain, asText := true }

def selectQuote (o : Opening) : Opening :=
  if o.lead.isLetter || o.lead.isJoinedPicture then { o with asQuote := true }
  else { lead := .plain, asQuote := true }

/-- A character that is no picture stands before the selector for one. -/
def dropPicture (o : Opening) : Opening :=
  if !o.asPicture then o
  else if o.lead.isLetter then { o with asPicture := false }
  else plain

/-- What is behind the selectors, for a character that none is for. -/
def settled (o : Opening) : Lead :=
  if o.lead.isLetter || !(o.asText || o.asQuote) then o.lead else .plain

def isCurlyQuote (c : Char) : Bool := c == '‘' || c == '’' || c == '“' || c == '”'

/-- The columns that a character adds to the text behind it, and what the
two start. -/
def before (o : Opening) (c : Char) : Int × Opening :=
  if o.asPicture && hasPictureForm c then
    (if o.lead.isJoinedPicture then 0 else 2, { lead := .picture })
  else
    let o := o.dropPicture
    if c.toNat ≤ 0xA0 then (1, plain)
    else if c = '\ufe0f' then (0, o.selectPicture)
    else if c = '\ufe0e' then (0, o.selectText)
    else if c = '\ufe01' then (0, o.selectQuote)
    else if o.asQuote && isCurlyQuote c then (2, plain)
    else if o.asText && hasNarrowForm c then (1, plain)
    else
      let (columns, lead) :=
        (o.settled.join? c).getD (charWidth .unicode17 c, .ofChar c)
      (columns, { lead })

end Opening

/-- No character takes columns away that those behind it do not have. -/
def textWidth (s : List Char) : Nat :=
  (s.foldr (fun c (columns, o) =>
    let (more, o) := o.before c
    (columns + more, o)) ((0 : Int), Opening.plain)).1.toNat

end Stride
