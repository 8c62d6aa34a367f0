import ComponentCrd.Domain.Spelling.Forms
import ComponentCrd.Domain.Spelling.Supplementary
import ComponentCrd.Domain.Spelling.Symbols
import ComponentCrd.Text.LetterCase

/-! The spelling of characters in a domain: lower case, and the plain letters and digits that
wide, enclosed, styled and joined forms stand for.
-/

namespace ComponentCrd.Domain

/-- Stretches of characters whose spelling is one character that lies a shift away. -/
def shiftedStretches : List Text.LowerShift := [
    ⟨⟨0x13F8, 0x13FD, 1⟩, -8⟩, ⟨⟨0x1D31, 0x1D39, 2⟩, -7372⟩, ⟨⟨0x1D34, 0x1D3A, 2⟩, -7372⟩,
    ⟨⟨0x1DAE, 0x1DB1, 1⟩, -6972⟩, ⟨⟨0x2074, 0x2079, 1⟩, -8256⟩, ⟨⟨0x2080, 0x2089, 1⟩, -8272⟩,
    ⟨⟨0x2096, 0x2099, 1⟩, -8235⟩, ⟨⟨0x2135, 0x2138, 1⟩, -7013⟩, ⟨⟨0x2460, 0x2468, 1⟩, -9263⟩,
    ⟨⟨0x24B6, 0x24CF, 1⟩, -9301⟩, ⟨⟨0x24D0, 0x24E9, 1⟩, -9327⟩, ⟨⟨0x313A, 0x313F, 1⟩, -8074⟩,
    ⟨⟨0x3145, 0x314E, 1⟩, -8252⟩, ⟨⟨0x314F, 0x3163, 1⟩, -8174⟩, ⟨⟨0x3178, 0x317C, 1⟩, -8269⟩,
    ⟨⟨0x3269, 0x326D, 1⟩, -8539⟩, ⟨⟨0x32E4, 0x32E9, 1⟩, -538⟩, ⟨⟨0x32EE, 0x32F2, 1⟩, -528⟩,
    ⟨⟨0x32F5, 0x32FA, 1⟩, -525⟩, ⟨⟨0x32FB, 0x32FE, 1⟩, -524⟩, ⟨⟨0xAB70, 0xABBF, 1⟩, -38864⟩,
    ⟨⟨0xFE41, 0xFE44, 1⟩, -52789⟩, ⟨⟨0xFF01, 0xFF20, 1⟩, -65248⟩, ⟨⟨0xFF21, 0xFF3A, 1⟩, -65216⟩,
    ⟨⟨0xFF3B, 0xFF5E, 1⟩, -65248⟩, ⟨⟨0xFF85, 0xFF8A, 1⟩, -52923⟩, ⟨⟨0xFF8F, 0xFF93, 1⟩, -52913⟩,
    ⟨⟨0xFF96, 0xFF9B, 1⟩, -52910⟩, ⟨⟨0xFFAA, 0xFFAF, 1⟩, -60922⟩, ⟨⟨0xFFB5, 0xFFBE, 1⟩, -61100⟩,
    ⟨⟨0xFFC2, 0xFFC7, 1⟩, -61025⟩, ⟨⟨0xFFCA, 0xFFCF, 1⟩, -61027⟩, ⟨⟨0xFFD2, 0xFFD7, 1⟩, -61029⟩,
    ⟨⟨0xFFE9, 0xFFEC, 1⟩, -56921⟩, ⟨⟨0x16EA0, 0x16EB8, 1⟩, 27⟩, ⟨⟨0x1CCD6, 0x1CCEF, 1⟩, -117877⟩,
    ⟨⟨0x1CCF0, 0x1CCF9, 1⟩, -117952⟩, ⟨⟨0x1D400, 0x1D419, 1⟩, -119711⟩,
    ⟨⟨0x1D41A, 0x1D433, 1⟩, -119737⟩, ⟨⟨0x1D434, 0x1D44D, 1⟩, -119763⟩,
    ⟨⟨0x1D44E, 0x1D466, 2⟩, -119789⟩, ⟨⟨0x1D457, 0x1D467, 2⟩, -119789⟩,
    ⟨⟨0x1D468, 0x1D481, 1⟩, -119815⟩, ⟨⟨0x1D482, 0x1D49B, 1⟩, -119841⟩,
    ⟨⟨0x1D4A9, 0x1D4AC, 1⟩, -119867⟩, ⟨⟨0x1D4AE, 0x1D4B5, 1⟩, -119867⟩,
    ⟨⟨0x1D4B6, 0x1D4B9, 1⟩, -119893⟩, ⟨⟨0x1D4BB, 0x1D4CF, 2⟩, -119893⟩,
    ⟨⟨0x1D4C6, 0x1D4CE, 2⟩, -119893⟩, ⟨⟨0x1D4D0, 0x1D4E9, 1⟩, -119919⟩,
    ⟨⟨0x1D4EA, 0x1D503, 1⟩, -119945⟩, ⟨⟨0x1D507, 0x1D50A, 1⟩, -119971⟩,
    ⟨⟨0x1D50D, 0x1D514, 1⟩, -119971⟩, ⟨⟨0x1D516, 0x1D51C, 1⟩, -119971⟩,
    ⟨⟨0x1D51E, 0x1D537, 1⟩, -119997⟩, ⟨⟨0x1D53B, 0x1D53E, 1⟩, -120023⟩,
    ⟨⟨0x1D540, 0x1D544, 1⟩, -120023⟩, ⟨⟨0x1D54A, 0x1D550, 1⟩, -120023⟩,
    ⟨⟨0x1D552, 0x1D56B, 1⟩, -120049⟩, ⟨⟨0x1D56C, 0x1D585, 1⟩, -120075⟩,
    ⟨⟨0x1D586, 0x1D59F, 1⟩, -120101⟩, ⟨⟨0x1D5A0, 0x1D5B9, 1⟩, -120127⟩,
    ⟨⟨0x1D5BA, 0x1D5D3, 1⟩, -120153⟩, ⟨⟨0x1D5D4, 0x1D5ED, 1⟩, -120179⟩,
    ⟨⟨0x1D5EE, 0x1D607, 1⟩, -120205⟩, ⟨⟨0x1D608, 0x1D621, 1⟩, -120231⟩,
    ⟨⟨0x1D622, 0x1D63B, 1⟩, -120257⟩, ⟨⟨0x1D63C, 0x1D655, 1⟩, -120283⟩,
    ⟨⟨0x1D656, 0x1D66F, 1⟩, -120309⟩, ⟨⟨0x1D670, 0x1D689, 1⟩, -120335⟩,
    ⟨⟨0x1D68A, 0x1D6A3, 1⟩, -120361⟩, ⟨⟨0x1D6A8, 0x1D6B8, 1⟩, -119543⟩,
    ⟨⟨0x1D6BA, 0x1D6C0, 1⟩, -119543⟩, ⟨⟨0x1D6C2, 0x1D6D2, 1⟩, -119569⟩,
    ⟨⟨0x1D6D4, 0x1D6DA, 1⟩, -119569⟩, ⟨⟨0x1D6E2, 0x1D6F2, 1⟩, -119601⟩,
    ⟨⟨0x1D6F4, 0x1D6FA, 1⟩, -119601⟩, ⟨⟨0x1D6FC, 0x1D70C, 1⟩, -119627⟩,
    ⟨⟨0x1D70E, 0x1D714, 1⟩, -119627⟩, ⟨⟨0x1D71C, 0x1D72C, 1⟩, -119659⟩,
    ⟨⟨0x1D72E, 0x1D734, 1⟩, -119659⟩, ⟨⟨0x1D736, 0x1D746, 1⟩, -119685⟩,
    ⟨⟨0x1D748, 0x1D74E, 1⟩, -119685⟩, ⟨⟨0x1D756, 0x1D766, 1⟩, -119717⟩,
    ⟨⟨0x1D768, 0x1D76E, 1⟩, -119717⟩, ⟨⟨0x1D770, 0x1D780, 1⟩, -119743⟩,
    ⟨⟨0x1D782, 0x1D788, 1⟩, -119743⟩, ⟨⟨0x1D790, 0x1D7A0, 1⟩, -119775⟩,
    ⟨⟨0x1D7A2, 0x1D7A8, 1⟩, -119775⟩, ⟨⟨0x1D7AA, 0x1D7BA, 1⟩, -119801⟩,
    ⟨⟨0x1D7BC, 0x1D7C2, 1⟩, -119801⟩, ⟨⟨0x1D7CE, 0x1D7D7, 1⟩, -120734⟩,
    ⟨⟨0x1D7D8, 0x1D7E1, 1⟩, -120744⟩, ⟨⟨0x1D7E2, 0x1D7EB, 1⟩, -120754⟩,
    ⟨⟨0x1D7EC, 0x1D7F5, 1⟩, -120764⟩, ⟨⟨0x1D7F6, 0x1D7FF, 1⟩, -120774⟩,
    ⟨⟨0x1E030, 0x1E038, 1⟩, -121856⟩, ⟨⟨0x1E03C, 0x1E046, 1⟩, -121854⟩,
    ⟨⟨0x1E051, 0x1E059, 1⟩, -121889⟩, ⟨⟨0x1E05F, 0x1E064, 1⟩, -121884⟩,
    ⟨⟨0x1EE0A, 0x1EE0D, 1⟩, -124871⟩, ⟨⟨0x1EE2A, 0x1EE2D, 1⟩, -124903⟩,
    ⟨⟨0x1F130, 0x1F149, 1⟩, -127183⟩, ⟨⟨0x1FBF0, 0x1FBF9, 1⟩, -129984⟩]

/-- The rows of a code point, by where it lies. -/
def spellingRows (code : Nat) : List (Nat × List (List Nat)) :=
  if code < 0x2000 then spelledLetters
  else if code < 0x3000 then spelledSymbols
  else if code < 0xA000 then spelledSquares
  else if code < 0xFB00 then spelledIdeographs
  else if code < 0xFE00 then spelledLigatures
  else if code < 0x10000 then spelledForms
  else if code < 0x20000 then spelledAlphanumerics
  else spelledVariants

/-- The spelling that the rows hold for a code point. -/
def rowSpelling? (code : Nat) : Option (List Char) :=
  (spellingRows code).findSome? fun (first, spellings) =>
    if code < first then none
    else spellings[code - first]?.map fun spelling => spelling.map Char.ofNat

/-- The spelling of a character in a domain. The capital letters of Cherokee stay. -/
def spelling (c : Char) : List Char :=
  let code := c.toNat
  if code < 0x80 then
    [c.toLower]
  else if 0x13A0 ≤ code ∧ code ≤ 0x13F5 then
    [c]
  else
    match rowSpelling? code, shiftedStretches.find? (·.stretch.has code) with
    | some spelled, _ => spelled
    | none, some found => [Char.ofNat ((code : Int) + found.shift).toNat]
    | none, none => Text.lower c

end ComponentCrd.Domain
