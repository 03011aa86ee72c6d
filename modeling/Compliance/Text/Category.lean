/-!
The general category of every code point.

The table writes the code points in order as runs of one category: a length in hexadecimal, left out
when it is one, and the letter of the category. The runs start at zero and leave no gap, so
`generalCategory` always finds the run that holds the character.
-/

namespace Compliance.Text

inductive Category
  | uppercaseLetter | lowercaseLetter | titlecaseLetter | modifierLetter | otherLetter
  | nonspacingMark | spacingMark | enclosingMark
  | decimalNumber | letterNumber | otherNumber
  | connectorPunctuation | dashPunctuation | openPunctuation | closePunctuation
  | initialPunctuation | finalPunctuation | otherPunctuation
  | mathSymbol | currencySymbol | modifierSymbol | otherSymbol
  | spaceSeparator | lineSeparator | paragraphSeparator
  | control | format | surrogate | privateUse | unassigned
  deriving DecidableEq, Repr, Inhabited

namespace Category

def all : List Category :=
  [uppercaseLetter, lowercaseLetter, titlecaseLetter, modifierLetter, otherLetter, nonspacingMark,
    spacingMark, enclosingMark, decimalNumber, letterNumber, otherNumber, connectorPunctuation,
    dashPunctuation, openPunctuation,
    closePunctuation, initialPunctuation, finalPunctuation, otherPunctuation, mathSymbol, currencySymbol,
    modifierSymbol, otherSymbol, spaceSeparator, lineSeparator, paragraphSeparator, control, format,
    surrogate,
    privateUse, unassigned]

def code : Category → String
  | uppercaseLetter => "Lu" | lowercaseLetter => "Ll" | titlecaseLetter => "Lt" | modifierLetter => "Lm"
  | otherLetter => "Lo" | nonspacingMark => "Mn" | spacingMark => "Mc" | enclosingMark => "Me"
  | decimalNumber => "Nd" | letterNumber => "Nl" | otherNumber => "No" | connectorPunctuation => "Pc"
  | dashPunctuation =>
    "Pd" | openPunctuation => "Ps" | closePunctuation => "Pe" | initialPunctuation => "Pi"
  | finalPunctuation => "Pf" | otherPunctuation => "Po" | mathSymbol => "Sm" | currencySymbol => "Sc"
  | modifierSymbol => "Sk" | otherSymbol => "So" | spaceSeparator => "Zs" | lineSeparator => "Zl"
  | paragraphSeparator =>
    "Zp" | control => "Cc" | format => "Cf" | surrogate => "Cs" | privateUse => "Co"
  | unassigned => "Cn"

end Category

private def categoryLetters : List Char := "ABCDEFGHIJKLMNOPQRSTUVWXYZghij".toList

private def categoryTable : String := String.join [
  "20ZW3RT3RNORSRM2RaI2R3S2R1aANROULU1aBNSOS21ZWR4TVRUVEPSgVUVS2KUB2RUKEQ3KR17AS7A18BS8BABABABABABA",
  "BABABABABABABABABABABABABABABABABABABABABABA2BABABABABABABABA2BABABABABABABABABABABABABABABABABA",
  "BABABABABABAB2ABABA3B2ABAB2AB3A2B4AB2AB3A3B2AB2ABABAB2ABA2BAB2AB3ABAB2A2BEA3B4EACBACBACBABABABAB",
  "ABABABA2BABABABABABABABABA2BACBAB3ABABABABABABABABABABABABABABABABABABABABABABABABABABABABABA7B2",
  "AB2A2BAB4ABABABABA45B2E1aB12D4UcDeU5D7UDUD11U70FABABDUAB2jD3BRA4j2UAR3AjAj2AB11Aj9A23BA2B3A3BABA",
  "BABABABABABABABABABA5BABSAB2A2B33A30BABABABABABABABABABABABABABABABABABV5F2HABABABABABABABABABAB",
  "ABABABABABABABABABABABABABABABABAB2ABABABABABABA2BABABABABABABABABABABABABABABABABABABABABABABAB",
  "ABABABABABABABABABABABABABABABABABABABABABABABABABj26A2jD6R29BRM2j2VTj2dFMFR2FR2FRF8j1bE4j4E2Rbj",
  "6g3S2RT2R2VbFRg3R20EDaE15FaI4R2EF63ERE7FgV6F2D2FV4F2EaI3E2VEeRjgEF1eE1bF2j59EbFEejaI21E9F2DV3RD2",
  "jF2T16E4FD9FD3FD5F2jfRj19E3F2jRjbE5j18EU7E2g5j9F29ED18Fg20FG36EFGFE3G8F4GF2GE7FaE2F2RaIRDfEF2Gj8",
  "E2j2E2j16Ej7EjE3j4E2jFE3G4F2j2G2j2GFE8jG4j2Ej3E2F2jaI2E2T6KVTERF2j2FGj6E4j2E2j16Ej7Ej2Ej2Ej2E2jF",
  "j3G2F4j2F2j3F3jF7j4EjE7jaI2F3EFRaj2FGj9Ej3Ej16Ej7Ej2Ej5E2jFE3G5Fj2FGj2GF2jEfj2E2F2jaIRT7jE6FjF2G",
  "j8E2j2E2j16Ej7Ej2Ej5E2jFEGFG4F2j2G2j2GF7j2FG4j2Ej3E2F2jaIVE6KajFEj6E3j3Ej4E3j2EjEj2E3j2E3j3E3jcE",
  "4j2GF2G3j3Gj3GF2jE6jGejaI3K6VTV5jF3GF8Ej3Ej17Ej10E2jFE3F4Gj3Fj4F7j2Fj3Ej2E2j2E2F2jaI7jR7KVEF2GR8",
  "Ej3Ej17EjaEj5E2jFEGF5GjF2Gj2G2F7j2G5j3Ej2E2F2jaIj2EGcj2F2G9Ej3Ej29E2FE3G4Fj3Gj3GFEV4j3EG7K3E2F2j",
  "aI9KV6EjF2Gj12E3j18Ej9EjE2j7E3jF4j3G3FjFj8G6jaI2j2GRcj30EF2E7F4jT6ED8FRaI2R25j2EjEj5Ej18EjEjaEF2",
  "E9FE2j5EjDj7FjaI2j4E20jE3VfRVR3V2F6VaIaKVFVFVFNONO2G8Ej24E4jeFG5FR2F5EbFj24Fj8VF6Vj2V5R4V2R25j2b",
  "E2G4FG6FG2F2G2FEaI6R6E2G2F4E3FE3G2E7G3E4FdEF2G2F6GFEGaI3GF2V26AjA5jA2j2bBRD3B149Ej4E2j7EjEj4E2j2",
  "9Ej4E2j21Ej4E2j7EjEj4E2jfEj39Ej4E2j43E2j3F9R14K3j10EaV6j56A2j6B2jM26cEVR11EW1aENO3j4bE3R3J8E7j12",
  "E3FG9j13E2FG2R9j12E2FcjdEj3Ej2Fcj34E2FG7F8GF2GbF3RD3RTEF2jaI6jaK6j6RM4R3FgFaI6j23ED35E7j5E2F22EF",
  "E5j46Eaj1fEj3F4G2F3G4j2GF6G3F4jV3j2RaI1eE2j5Ebj2cE4j1aE6jaIK3j22V17E2F2GF2j2R35EGFG7FjFGF2G8F6Ga",
  "F2jFaI6jaI6j7RD6R2jeFH1fF2jcF14j4FG2fEFG5FGF5GF2G8Ej2RaI7RaV9F9V3R2FG1eEG4F2G2FG3F2EaI2cEFG2F3GF",
  "G3F2G8j4R24E8G8F2G2F3j5RaI3j3EaI1eE6D2R9BAB5j2bA2j3A8R8j3FRdFG7F4EF6EF2EG2FE5j2cB3fDdBD22B25D40F",
  "ABABABABABABABABABABABABABABABABABABABABABABABABABABABABABABABABABABABABABABABABABABABABABABABAB",
  "ABABABABABABABABABABABABABABABABABABABABABABABABABABA9BABABABABABABABABABABABABABABABABABABABABA",
  "BABABABABABABABABABABABABABABABABABABABABABABABABABABABA9B8A6B2j6A2j8B8A8B8A6B2j6A2j8BjAjAjAjA8B",
  "8AeB2j8B8C8B8C8B8C5Bj2B4ACUB3U3Bj2B4AC3U4B2j2B4Aj3U8B5A3U2j3Bj2B4AC2UjbW5g6M2RPQN2PQNP8RXY5gW9RP",
  "Q4R2L3RSNObRSRLaRW5gjagKD2j6K3SNODaK3SNOjdD3j22TejdF4HF3HcFfj2VA4VA2VB3A2B3ABVA2VS5A6VAVAVAV4AVB",
  "4AB4EB2V2B2A5SA4BVS2VBV10K23JAB4JK2V4j5S5V2S4VS2VS2VS7VS1fV2S2VSVS1fV10cS8VNONO14V2S7VNO51VS1eV1",
  "9S28V6S48V16jbV15j3cK4eV16Kb7VS9VS36V8S6fVSf8VNONONONONONONO1eK2cV5SNO1fSNONONONONO10S100V83SNON",
  "ONONONONONONONONONO3fSNONO20SNO102S30V15S2V6S27V2j8aV30A30BAB3A2BABABAB4ABA2BA6B2D3ABABABABABABA",
  "BABABABABABABABABABABABABABABABABABABABABABABABABABABABABABABABABABABABABABABABABABABA2B6VABAB3F",
  "AB5j4RK2R26BjB5jB2j38E7jDRejF17E9j7Ej7Ej7Ej7Ej7Ej7Ej7Ej7Ej20F2RPQPQ3RPQRPQ9RM2RMRPQ2RPQNONONONO5",
  "RDaR2M4RMRNdR2V3RNONONONOM22j1aVj59Vcjd6V1aj10VW3RVDEJNONONONONO2VNONONONOMN2OV9J4F2GM5D2V3JDER2",
  "Vj56E2j2F2U2DEM5aER3DE5j2bEj5eEj2V4KaV20E26V9jV10E1fVjaK1eV8KVfK20VaK27VfK140V19c0E40V5215ED477E",
  "3j37V9j28E6D2R10cED3R10EaI2E14jABABABABABABABABABABABABABABABABABABABABABABABEF3HRaFRDABABABABAB",
  "ABABABABABABABABAB2D2F46EaJ2F6R8j17U9D2UABABABABABABA3BABABABABABABABABABABABABABABABABABABABABA",
  "BABABABABABABABABABABD8BABAB2ABABABABABD2UABABEABA3BABABABABABABABABABAB5AB5ABABABABABABABAB4ABA",
  "B2ABABABABABABABABA14j4DABE2DB7EF3EF4EF17E2G2FG4VF3j6K2VTV6j34E4R8j2G32E10G2F8j2RaI6j12F6E3RER2E",
  "FaI1cE8F2R17EbF2GbjR1dE3j3FG2fEF2G4F2G2F3GdRjDaI4j2R5EFD9EaI5Ej29E6F2G2F2G2F9j3EF8EFG2jaI2j4R10E",
  "D6E3VEGFG32EFE3F2E2F5E2FEFE18j2ED2RbEG2F2G2RE2DGFaj6E2j6E2j6E9j7Ej7Ej2bBU4D9BD2U4j50B23E2GF2GF2G",
  "RGF2jaI6j2ba4Ecj17E4j31E4j800h1900i16eE2j6aE26j7Bcj5B5jEFaESdEj5EjEj2Ej2Ej6cE11U10V16bEON10V40E2",
  "V36E8V20jcET3V10F7RNOR6j10FR2M2LNONONONONONONONO2RNO4R3L3Rj4RMNONONO3RSM3SjRT2R4j5Ej87E2jgj3RT3R",
  "NORSRM2RaI2R3S2R1aANROULU1aBNSOSNORNO2RaED2dE2D1fE3j6E2j6E2j6E2j3E3j2TSUV2TjV4S2Vaj3g2V2jcEj1aEj",
  "13Ej2EjfE2jeE22j7bE5j3R4j2dK3j9V35J4K11V2K3VjdV3jV2fj2dVF82j1dE3j31EfjF1bK4j20E4K9j14EJ8EJ5j26E5",
  "F5j1eEjR24E4j8ER5J2aj28A28B4eE2jaI6j24A4j24B4j28E8j34EbjRbAjfAj7Aj2AjbBjfBj7Bj2B3j34Ecj137E9j16E",
  "aj8E18j6Dj2aDj9D45j6E2jEj2cEj2E3jE2j17EjR8K17E2V7K1fE8j9K30j13Ej2E5j5K16E6K3jR1aE5jR1aE26j38E4j2",
  "K2E10K2j2eKE3Fj2F5j4F4Ej3Ej1dE2j3F4jF9K7j9R7j1dE2KR1dE3K20j8EV1cE2F4j5K7R9j36E3j7R16E2j8K13E5j8K",
  "12E7j4Rcj7K50j49E37j33Adj33B7j6K24E4F8jaI6jaI4EDE16A3j5FMD16B8j2Sd0j1fKj2aEj2FM2j2E10j3ED2E8jR8V",
  "21j6F1dEaKE8j16EbF4K5R16j12E4F4R26j15E7K14j17E9jGFG35EfF7R4j14KaIF2E2FE9j3FG2dE3G4F2G2F2Rg4RFajg",
  "2j19E7jaI6j3F24E5FG8FjaI4RE2GE8j23EF2RE9j2FG30E3G9F2G4E4R4FRGFaIERE3Rj14Kbj12Ej19E3G3F2GFG2F6RF2",
  "EF3ej7EjEj4EjfEjaER6j2fEF3G8F5jaI6j2F2Gj8E2j2E2j16Ej7Ej2Ej5Ej2FE2GF4G2j2G2j3G2jE6jG5j5E2G2j7F3j5",
  "FbjaEjE2jEj26EjE3G6FjG2jGj4Gj2GFGFEFE2Rj2R8j2F1dj35E3G8F2G3FGF4E5RaI2RjRF3E1ej30E3G6FGF4G2FG2F2E",
  "RE8jaIa6j2fE3G4F2j4G2FG2F17R4E2F22j30E3G8F2GFG2F3REbjaI6jdR13j2bEFGF2G6FGFER6jaI6j14I1cj1bE2jFGF",
  "2G4FG5F4jaI2K3RV7Eb9j2cE3G9FG2FR64j20A20BaI9Kcj8E2jE2j8Ej2Ej18E6Gj2G2j2FGFEGEGF3R9jaI46j8E2j27E3",
  "G4F2j2F4GFEREG1bjEaF28E6FGE4F8RF8jE6F2G3F2eEdFG2F3RE5Rdj49E7jaR56jFG3FGFG58j21ERejaI6j9Ej25EG7Fj",
  "6FGFE5RajaI13K3j2R1eE2j16FjG7FG2FG2F49j7Ej2Ej26E6F3jFj2Fj7FEF8jaI6j6Ej2Ej20E5Gj2Fj2GFGFE7jaI6j29",
  "ED2E4jaIf6j13E2F2G2R7j2FEGdEj22E2G5F3j2GFGFdRaIF55jEfj15K8V4T11VdjR39aE66j6fJj5Rbjc4Ea4cj61E2Rdj",
  "430E10gF6EfFajf9bE5j247E1ab9j1eEcF3G3FaI6c6j239E7j1fEjaI4j2R4fEjaI6j1eE2j5FRaj30E7F5R4V4DRVajaIj",
  "7Kj15E5j13E1b0j3D28E2D3RaIc6j20A20B17K4R5j19A2j19B2cj4bE4jFE37G7j4FdD40j2DRDFbj2G2D3J9j1cd6E29j2",
  "0E61j73E21fdj4Dj7Dj2Dj123EfjE1dj3E2jEej4E8j18cE904j6bE5jdE3j9E7jaE2jV2FR4gf5cjf0VaI3V3j1b4V6j17V",
  "fj10VSfj2eF2j17F9j74V3cjf6Vaj27V2j3cV2G3F3V6G8g8F2V7F1eV4F3dV15j42V3FV7aj14Kcj14Kcj57V9j19K87j1a",
  "A1aB1aA7Bj12B1aA1aBAj2A2jA2j2A2j4Aj8A4BjBj7BjbB1aA1aB2Aj4A2j8Aj7Aj1aB2Aj4Aj5AjA3j7Aj1aB1aA1aB1aA",
  "1aB1aA1aB1aA1aB1aA1aB1aA1cB2j19AS19BS6B19AS19BS6B19AS19BS6B19AS19BS6B19AS19BS6BAB2j32I200V37F4V3",
  "2F8VFeVF2V5Rfj5FjfF450jaBE14B6j6Bd5j7Fj11F2j7Fj2Fj5F5j3eD21jF70j2dE3j7F7D2jaI4jEV140j1eEF11j2cE4",
  "FaI5jT1d0j1bED4FaId6j1eE2FEaI4jRc0j1fEj3EF2EF7E2F5EF8jEDe0j7Ej4Ej2EjfEjc5E2j9K7F29j22A22B7FD4jaI",
  "4j2R311j3bKV3KT4K4cj2dKVfKc2j4Ej1bEj2EjE2jEjaEj4EjEjE6jE4jEjEjEj3Ej2EjE2jEjEjEjEjEj2EjE2j4Ej7Ej4",
  "Ej4EjEjaEj11E5j3Ej5Ej11E34j2S10ej2cV4j64VcjfV2jfVjfVj25VajdKa1V38j1dVdj2cV4j9V7j2Vej6V9ajfbV5U2d",
  "9V3j11V3jdV3jdaV6jcV4jVfjcV4j38V8jaV6j28V8j1eV2jcV4j2Vej9S27j158V8jeV2jdV3jbV3j39VjV4j10V2jcV4ja",
  "V7j93Vj5cVaIV405ja6e0E20j111eE2j168eE2j1d31Efj26eE9a2j21eE5e2j134bE5j212aEacb87jg1ej60g80jf0Ffe1",
  "0jfffei2jfffei2j"]

structure CategoryRun where
  first : Nat
  category : Category

private def hexValue (c : Char) : Nat :=
  if '0' ≤ c ∧ c ≤ '9' then c.toNat - '0'.toNat else c.toNat - 'a'.toNat + 10

/-- Reads runs that begin at code point `first`; `length` is what has been read of the next length. -/
private def readRuns (letters : List (Char × Category)) : List Char → Nat → Nat → List CategoryRun
  | [], _, _ => []
  | c :: rest, first, length =>
    match letters.lookup c with
    | some category => ⟨first, category⟩ :: readRuns letters rest (first + max length 1) 0
    | none => readRuns letters rest first (16 * length + hexValue c)

def categoryRuns : Array CategoryRun :=
  (readRuns (categoryLetters.zip Category.all) categoryTable.toList 0 0).toArray

/-- The index of the last run that begins at or before `n`, sought among `width` runs from `low` on. -/
private def runIndex (runs : Array CategoryRun) (n low width : Nat) : Nat :=
  if _done : width ≤ 1 then low
  else
    match runs[low + width / 2]? with
    | some run =>
      if run.first ≤ n then runIndex runs n (low + width / 2) (width - width / 2)
      else runIndex runs n low (width / 2)
    | none => low
termination_by width
decreasing_by all_goals omega

def generalCategory (c : Char) : Category :=
  match categoryRuns[runIndex categoryRuns c.toNat 0 categoryRuns.size]? with
  | some run => run.category
  | none => .unassigned

end Compliance.Text
