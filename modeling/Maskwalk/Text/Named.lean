import Maskwalk.Text.CodeSet
import Maskwalk.Text.Names.Alphabets
import Maskwalk.Text.Names.Ancient
import Maskwalk.Text.Names.Notations
import Maskwalk.Text.Names.Scripts
import Maskwalk.Text.Names.Supplements
import Maskwalk.Text.Names.Symbols

/-!
# Characters by their names

A character can be written by the name that Unicode 14 has for it, or by one of its other names.
The letters of ASCII may be of any case in a name. But Hangul syllables and unified ideographs,
whose names are not listed but made by a rule, must be named in capitals. What Unicode names and
what is made of several characters cannot be written so.

## Main definitions

* `Text.named?`: the code point of the character with a name.
-/

namespace Maskwalk

namespace Text

namespace Names

/-- The tables of names. -/
def tables : List NameTable := [
  latin, greek, semitic, others,
  indic, eastern, syllabic, further, phonetic,
  punctuation, arrows, technical, signs, operators,
  added, kana, yi, rare, jamo, ligatures, forms,
  aegean, semiticScripts, brahmic, cuneiform, hieroglyphs, communities, tangut, oldKana,
  music, mathematical, gestures, pictures, shapes]

/-- What Hangul syllables can start with. -/
def leads : List Text := pieces (· = ' ')
  "G GG N D DD R M B BB S SS  J JJ C K T P H".toList

/-- The vowels of Hangul syllables. -/
def vowels : List Text := pieces (· = ' ')
  "A AE YA YAE EO E YEO YE O WA WAE OE YO U WEO WE WI YU EU YI I".toList

/-- What Hangul syllables can end with. -/
def tails : List Text := pieces (· = ' ')
  " G GG GS N NJ NH D L LG LM LB LS LT LP LH M B BS S SS NG J C K T P H".toList

/-- The Hangul syllables in the order of their code points. -/
def syllables : List Text :=
  leads.flatMap fun lead => vowels.flatMap fun vowel => tails.map fun tail => lead ++ vowel ++ tail

/-- The code point of a Hangul syllable. -/
def syllable? (name : Text) : Option Nat := (syllables.idxOf? name).map (0xac00 + ·)

/-- The code points of the unified ideographs. -/
def ideographs : CodeSet := [
  0x3400, 0x4dc0, 0x4e00, 0xa000, 0x20000, 0x2a6e0, 0x2a700, 0x2b739, 0x2b740, 0x2b81e, 0x2b820,
  0x2cea2, 0x2ceb0, 0x2ebe1, 0x30000, 0x3134b]

/-- The code point of a unified ideograph, which is named by four or five digits. -/
def ideograph? (digits : Text) : Option Nat :=
  let n := natOf 16 digits
  if (digits.length = 4 ∨ digits.length = 5)
      ∧ digits.all (fun c => isDigit c || ('A' ≤ c && c ≤ 'F')) ∧ ideographs.holds n then some n
  else none

/-- Characters that are named by a number behind a text: that text, and the first and the last code
    point. -/
def numbered : List (Text × Nat × Nat) := [
  ("CJK COMPATIBILITY IDEOGRAPH-".toList, 0xf900, 0xfa6d),
  ("CJK COMPATIBILITY IDEOGRAPH-".toList, 0xfa70, 0xfad9),
  ("CJK COMPATIBILITY IDEOGRAPH-".toList, 0x2f800, 0x2fa1d),
  ("KHITAN SMALL SCRIPT CHARACTER-".toList, 0x18b00, 0x18cd5),
  ("NUSHU CHARACTER-".toList, 0x1b170, 0x1b2fb)]

/-- The code point of a character that is named by a number. -/
def numbered? (name : Text) : Option Nat :=
  numbered.findSome? fun (head, first, final) => do
    let digits ← afterHead head name
    let n := natOf 16 digits
    if digits = (hexDigits 4 n).map asciiUpper ∧ first ≤ n ∧ n ≤ final then some n else none

end Names

/-- The code point of the character with a name. -/
def named? (name : Text) : Option Nat :=
  match afterHead "HANGUL SYLLABLE ".toList name with
  | some rest => Names.syllable? rest
  | none =>
    match afterHead "CJK UNIFIED IDEOGRAPH-".toList name with
    | some digits => Names.ideograph? digits
    | none =>
      let name := name.map asciiUpper
      (Names.tables.findSome? (NameTable.find? name)).or (Names.numbered? name)

end Text

end Maskwalk
