import TemplateLint.Text.Table

/-!
# Writing direction

The bidirectional classes of Unicode, and the rule for a label that is written from left to
right or from right to left: what it starts with, consists of and ends with.
-/

namespace TemplateLint.Text

/-- The bidirectional classes that may stand in a label, and one class for all others. -/
inductive Direction where
  | left
  | right
  | arabicLetter
  | arabicNumber
  | europeanNumber
  | numberSeparator
  | numberTerminator
  | commonSeparator
  | nonspacing
  | boundary
  | neutral
  | blank
deriving DecidableEq

namespace Direction

/-- The class of an abbreviation. -/
def ofName : String → Direction
  | "L" => left
  | "R" => right
  | "AL" => arabicLetter
  | "AN" => arabicNumber
  | "EN" => europeanNumber
  | "ES" => numberSeparator
  | "ET" => numberTerminator
  | "CS" => commonSeparator
  | "NSM" => nonspacing
  | "BN" => boundary
  | "ON" => neutral
  | _ => blank

/-- The bidirectional classes of all code points, as runs of abbreviations. -/
def table : String :=
  "BN*9 WS*5 BN*14 WS*5 ON*2 ET*3 ON*5 ES CS ES CS*2 EN*10 CS ON*6 L*26 ON*6 L*26 ON*4 BN*6 WS
    BN*26 CS ON ET*4 ON*4 L ON*2 BN ON*2 ET*2 EN*2 ON L ON*3 EN L ON*5 L*23 ON L*31 ON L*449 ON*2
    L*7 ON*14 L*2 ON*14 L*5 ON*9 L ON*17 NSM*112 L*4 ON*2 L*8 ON L*5 ON*2 L ON L*110 ON L*140 NSM*7
    L*256 ON*5 ET*2 NSM*45 R NSM R NSM*2 R NSM*2 R NSM*9 R*48 AN*6 ON*2 AL ET*2 AL CS AL ON*2
    NSM*11 AL*48 NSM*21 AN*10 ET AN*2 AL*3 NSM AL*101 NSM*7 AN ON NSM*6 AL*2 NSM*2 ON NSM*4 AL*2
    EN*10 AL*23 NSM AL*30 NSM*29 AL*89 NSM*11 AL*15 R*43 NSM*9 R*2 ON*4 R*3 NSM R*24 NSM*4 R NSM*9
    R NSM*3 R NSM*7 R*41 NSM*5 R*2 AL*48 AN*7 NSM*9 AL*42 NSM*24 AN NSM*32 L*55 NSM L NSM L*4 NSM*8
    L*4 NSM L*3 NSM*7 L*10 NSM*2 L*29 NSM L*58 NSM L*4 NSM*6 L*6 NSM L*20 NSM*4 L*12 ET*2 L*7 ET
    L*2 NSM*5 L*57 NSM*2 L*3 NSM*24 L*23 NSM*2 L*3 NSM L*11 NSM*2 L*57 NSM L*4 NSM*8 L*4 NSM*3 L*18
    NSM*4 L*11 ET*8 L NSM*8 L*58 NSM L*2 NSM L NSM*6 L*6 NSM*10 L*11 NSM*4 L*28 NSM L*61 NSM L*12
    NSM*3 L*35 ON*6 ET ON*6 NSM L*3 NSM L*55 NSM L NSM*3 L*5 NSM*18 L*10 NSM*4 L*18 ON*7 L*2 NSM
    L*58 NSM L*15 NSM*9 L*13 NSM*4 L*26 NSM*2 L*57 NSM*2 L*4 NSM*5 L*7 NSM L*20 NSM*4 L*27 NSM L*72
    NSM*5 L*3 NSM*6 L*89 NSM L*2 NSM*11 ET L*7 NSM*8 L*98 NSM L*2 NSM*9 L*11 NSM*8 L*72 NSM*2 L*27
    NSM L NSM L NSM ON*4 L*51 NSM*14 L NSM*5 L NSM*2 L*5 NSM*49 L*8 NSM L*102 NSM*4 L NSM*6 L NSM*2
    L*2 NSM*2 L*25 NSM*2 L*4 NSM*3 L*16 NSM*4 L*13 NSM L*2 NSM*2 L*6 NSM L*15 NSM L*703 NSM*3 L*48
    ON*16 L*96 ON L*639 WS L*26 ON*5 L*114 NSM*3 L*29 NSM*2 L*30 NSM*14 L*18 NSM*14 L*52 NSM*2 L
    NSM*7 L*8 NSM L*2 NSM*11 L*7 ET L NSM*3 L*16 ON*27 NSM*3 BN NSM L*117 NSM*2 L*34 NSM L*118
    NSM*3 L*4 NSM*2 L*9 NSM L*6 NSM*7 ON*6 L*152 ON*34 L*23 NSM*2 L*2 NSM*3 L*56 NSM L NSM*9 L NSM
    L*2 NSM*8 L*6 NSM*13 L*48 NSM*84 L*48 NSM L NSM*5 L NSM L*5 NSM L*40 NSM*9 L*12 NSM*2 L*32
    NSM*4 L*2 NSM*2 L NSM*3 L*56 NSM L NSM*2 L*3 NSM L NSM*3 L*58 NSM*8 L*2 NSM*5 L*149 NSM*3 L
    NSM*13 L NSM*7 L*4 NSM L*6 NSM L*3 NSM*2 L*198 NSM*64 L*445 ON L ON*3 L*11 ON*3 L*13 ON*3 L*13
    ON*5 L*11 ON*3 WS*11 BN*3 L R ON*24 WS*7 CS ET*5 ON*15 CS ON*26 WS BN*6 WS*4 BN*6 EN L*3 EN*6
    ES*2 ON*3 L EN*10 ES*2 ON*4 L*16 ET*48 NSM*48 ON*2 L ON*4 L ON*2 L*10 ON L ON*3 L*5 ON*6 L ON L
    ON L ON L*4 ET L*11 ON*2 L*4 ON*5 L*5 ON*4 L*2 ON*16 L*41 ON*137 ES ET ON*290 L*69 ON*26 L
    ON*242 EN*20 L*78 ON*450 L ON*339 L*256 ON*768 L*229 ON*6 L*4 NSM*3 L*7 ON*7 L*127 NSM L*96
    NSM*32 ON*512 WS ON*4 L*3 ON*25 L*9 NSM*4 L*2 ON L*5 ON*2 L*5 ON*4 L*88 NSM*2 ON*2 L*3 ON L*90
    ON L*196 ON*48 L*45 ON*3 L*48 ON*16 L*28 ON*3 L*50 ON*15 L*12 ON*4 L*167 ON*4 L*99 ON*2 L*31 ON
    L*6592 ON*64 L*22160 ON*64 L*317 ON*3 L*95 NSM*4 ON NSM*10 ON*2 L*30 NSM*2 L*80 NSM*2 L*14
    ON*34 L*102 ON L*121 NSM L*3 NSM L*4 NSM L*25 NSM*2 L ON*4 NSM*4 L*8 ET*8 L*52 ON*12 L*68
    NSM*10 L*18 NSM*18 L*13 NSM L*38 NSM*8 L*25 NSM*11 L*46 NSM*3 L*48 NSM L*2 NSM*4 L*2 NSM*2 L*39
    NSM L*67 NSM*6 L*2 NSM*2 L*2 NSM*11 L*3 NSM L*8 NSM L*47 NSM L*51 NSM L NSM*3 L*2 NSM*2 L*5
    NSM*2 L NSM L*42 NSM*2 L*8 NSM*11 L*105 ON*6 L*117 NSM L*2 NSM L*4 NSM*3 L*20269 R NSM R*10 ES
    R*38 AL*115 ON*16 AL*363 ON*18 AL*64 ON*2 AL*54 ON*40 AL*13 ON*3 NSM*16 ON*16 NSM*16 ON*32 CS
    ON CS*2 ON CS ON*9 ET ON*2 ES*2 ON*5 ET*2 ON*5 AL*143 BN*2 ON*2 ET*3 ON*5 ES CS ES CS*2 EN*10
    CS ON*6 L*26 ON*6 L*26 ON*11 L*122 ET*2 ON*3 ET*3 ON*24 L*257 ON L*62 ON*77 L*3 ON*64 L*45
    NSM*131 L*96 NSM EN*31 L*118 NSM*10 L*1152 R*287 ON R*225 NSM*15 R*40 NSM*8 R*165 NSM*6 R*78
    ON*7 R*448 AL*36 NSM*12 AN*16 R*41 NSM*5 ON R*31 ON*210 AN*32 R*43 NSM*2 R*21 AL*14 ON*42 NSM*6
    R*48 AL*22 NSM*11 AL*31 R*18 NSM*4 R*122 L NSM L*54 NSM*15 L*11 ON*20 L*10 NSM L*2 NSM*2 L*10
    NSM*3 L*49 NSM*4 L*2 NSM*2 L*7 NSM*11 L*51 NSM*3 L*36 NSM*5 L NSM*9 L*61 NSM L*12 NSM*2 L*52
    NSM*9 L*10 NSM*4 L*2 NSM L*95 NSM*3 L*2 NSM L NSM*2 L*6 NSM L*2 NSM*63 L*95 NSM L*3 NSM*13 L*16
    NSM*2 L*57 NSM*2 L*3 NSM L*37 NSM*26 L*59 NSM*7 L*12 NSM L NSM L NSM L*14 NSM*31 L*56 NSM*8 L*2
    NSM*3 L NSM L*23 NSM L*84 NSM*6 L NSM L*4 NSM*2 L NSM*2 L*238 NSM*6 L*4 NSM*2 L NSM*2 L*27
    NSM*36 L*51 NSM*8 L*2 NSM L NSM*2 L*31 ON*32 L*43 NSM L NSM L*2 NSM*6 L NSM L*101 NSM*3 L*2
    NSM*4 L NSM*9 L*255 NSM*9 L NSM*2 L*256 NSM*2 L NSM L*4 NSM L*144 NSM*8 L*4 NSM L*32 NSM*6 L*2
    NSM*2 L*40 NSM*6 L*2 NSM*4 L*8 NSM*9 L NSM*6 L*2 NSM*3 L*46 NSM*13 L NSM*2 L*198 NSM L NSM*3 L
    NSM L*201 NSM*14 L*84 NSM*23 L NSM*7 L NSM*2 L NSM*75 L*49 NSM*21 L NSM*9 L*64 NSM*3 L*2 NSM L
    NSM L*347 NSM*2 L*11 NSM*2 L*52 NSM*8 L*2 NSM L NSM L*23 NSM*86 L*37 ON*8 ET*4 ON*30 L*5185 NSM
    L*6 NSM*25 L*11454 NSM*12 L*3 NSM*3 L*2496 NSM*5 L*59 NSM*7 L*1048 NSM L*63 NSM*4 L*79 ON L
    NSM*12 L*19629 NSM*2 L BN*3936 ON*240 EN*10 ON*518 NSM*80 L*535 NSM*3 L*9 BN*8 NSM*8 L*2 NSM*7
    L*30 NSM*4 L*59 ON*89 NSM*3 ON*123 L*64 ON*96 L*891 ON L*57 ON L*57 ON L*57 ON L*57 ON L*10
    EN*50 L*512 NSM*55 L*4 NSM*50 L*8 NSM L*14 NSM L*22 NSM*1125 L*256 NSM*48 L*95 NSM*113 L*48
    NSM*7 L*375 NSM*18 L*44 NSM*4 L*15 ET*465 L*28 NSM*4 L*254 NSM*2 L*243 NSM L*2 NSM L*7 NSM*2
    L*5 NSM*9 L*258 R*208 NSM*48 R*68 NSM*7 R*806 AL*639 ON*528 EN*11 ON*5 L*31 ON L*58 ON*6 L*61
    ON*57 L*122 ON*2448 EN*10 ON*1030 L*786433 BN*255 NSM*65280"

/-- The bidirectional classes of all code points. -/
def runs : List (Direction × Nat) := Table.runs ofName table

/-- The bidirectional class of a character. -/
def of (c : Char) : Direction := (Table.find? runs c.toNat).getD left

/-- The classes that are written from right to left. -/
def isRightward : Direction → Bool
  | right | arabicLetter | arabicNumber => true
  | _ => false

/-- The classes in a label that is written from left to right. -/
def staysLeft : Direction → Bool
  | left | europeanNumber | numberSeparator | commonSeparator | numberTerminator | neutral
  | boundary | nonspacing => true
  | _ => false

/-- The classes in a label that is written from right to left. -/
def staysRight : Direction → Bool
  | left | blank => false
  | _ => true

/-- Whether a label has the classes of one direction: it starts with a letter, every class
belongs to the direction of that letter, and before nonspacing marks it ends with a letter
or number.  From right to left, numbers are of one kind. -/
def isLabel (label : List Direction) : Bool :=
  let last := (label.reverse.dropWhile (· = nonspacing)).head?
  match label.head? with
  | some left => label.all staysLeft && (last == some left || last == some europeanNumber)
  | some right | some arabicLetter =>
    label.all staysRight
      && (last == some right || last == some arabicLetter || last == some europeanNumber
        || last == some arabicNumber)
      && !(label.contains europeanNumber && label.contains arabicNumber)
  | _ => false

end Direction

end TemplateLint.Text
