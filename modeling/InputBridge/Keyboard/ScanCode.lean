-- SUMMARY: Scan codes of keycodes, and the base layouts that assign virtual keys to them.
import InputBridge.Keyboard.VirtualKey

/-!
# Scan codes

A scan code has a base byte and two range bits: 0x100 for the first extended
range, 0x200 for the second. Keycodes of the display server are translated to
scan codes, and each base layout assigns virtual keys to scan codes.
-/

namespace InputBridge

/-! ## From keycodes -/

/-- Scan codes of the keys outside the range that maps straight through, by kernel
key number. -/
def namedScanCodes : List (UInt32 × UInt16) := [
  (84, 0x005a), (86, 0x0056), (87, 0x0057), (88, 0x0058),
  (96, 0x011c), (97, 0x011d), (98, 0x0135), (99, 0x0054),
  (100, 0x0138), (101, 0x0059), (102, 0x0147), (103, 0x0148),
  (104, 0x0149), (105, 0x014b), (106, 0x014d), (107, 0x014f),
  (108, 0x0150), (109, 0x0151), (110, 0x0152), (111, 0x0153),
  (113, 0x0120), (114, 0x012e), (115, 0x0130), (116, 0x015e),
  (118, 0x007b), (119, 0x021d), (120, 0x0062),
  (125, 0x015b), (126, 0x015c), (127, 0x005f), (128, 0x0168),
  (134, 0x005c), (136, 0x0165), (138, 0x0063), (139, 0x015d),
  (142, 0x015f), (148, 0x016b), (149, 0x0121),
  (155, 0x016c), (156, 0x0166), (157, 0x0071), (158, 0x016a), (159, 0x0169),
  (163, 0x0119), (164, 0x0122), (165, 0x0110), (166, 0x0124),
  (172, 0x0132), (173, 0x0167), (174, 0x005b),
  (183, 0x0064), (184, 0x0065), (185, 0x0066), (186, 0x0067),
  (187, 0x0068), (188, 0x0069), (189, 0x006a), (190, 0x006b),
  (191, 0x006c), (192, 0x006d), (193, 0x006e), (194, 0x0076),
  (210, 0x0137), (223, 0x0146), (226, 0x016d)]

/-- The scan code of a keycode. Kernel key numbers lie 8 below keycodes; up to
keypad dot they are scan codes themselves, and a key without a scan code of its
own gets a made-up one in the second extended range. -/
def scanOfKeycode (keycode : UInt32) : UInt16 :=
  let key := keycode - 8
  if key ≤ 83 then key.toUInt16
  else (namedScanCodes.lookup key).getD (0x200 ||| (key &&& 0x7f).toUInt16)

/-! ## Base layouts -/

/-- The base layouts, by their letter rows. -/
inductive ScanLayout where
  | qwerty
  | azerty
  | qwertz
  | dvorak
  deriving DecidableEq, Repr, Inhabited

namespace ScanLayout

open VirtualKey

def name : ScanLayout → String
  | qwerty => "qwerty"
  | azerty => "azerty"
  | qwertz => "qwertz"
  | dvorak => "dvorak"

/-- Consecutive scan codes from `start` with consecutive keys of `keys`, each
named by its character. -/
def row (start : UInt16) (keys : String) : List (UInt16 × UInt16) :=
  keys.toList.zipIdx.map fun (c, i) => (start + UInt16.ofNat i, UInt16.ofNat c.toNat)

/-- Consecutive scan codes from `start` with `count` consecutive function keys. -/
def functionRow (start first : UInt16) (count : Nat) : List (UInt16 × UInt16) :=
  (List.range count).map fun i => (start + UInt16.ofNat i, first + UInt16.ofNat i)

/-- A keypad key that navigates without Num Lock. -/
def keypad (key : UInt16) : UInt16 := key ||| numpadFlag ||| specialFlag

/-- The typing block of the QWERTY layout. -/
def qwertyBlock : List (UInt16 × UInt16) :=
  [(0x00, unassigned), (0x01, escape)]
  ++ row 0x02 "1234567890"
  ++ [(0x0c, oemMinus), (0x0d, oemPlus), (0x0e, backspace), (0x0f, tab)]
  ++ row 0x10 "QWERTYUIOP"
  ++ [(0x1a, oem4), (0x1b, oem6), (0x1c, enter), (0x1d, leftControl)]
  ++ row 0x1e "ASDFGHJKL"
  ++ [(0x27, oem1), (0x28, oem7), (0x29, oem3), (0x2a, leftShift), (0x2b, oem5)]
  ++ row 0x2c "ZXCVBNM"
  ++ [(0x33, oemComma), (0x34, oemPeriod), (0x35, oem2)]

/-- Everything outside the typing block, the same in every layout. -/
def sharedKeys : List (UInt16 × UInt16) :=
  [(0x36, rightShift ||| extendedFlag), (0x37, multiply ||| multipleFlag),
    (0x38, leftAlt), (0x39, space), (0x3a, capsLock)]
  ++ functionRow 0x3b f1 10
  ++ [(0x45, numLock ||| extendedFlag ||| multipleFlag), (0x46, scrollLock ||| multipleFlag),
    (0x47, keypad home), (0x48, keypad up), (0x49, keypad pageUp), (0x4a, subtract),
    (0x4b, keypad left), (0x4c, keypad clear), (0x4d, keypad right), (0x4e, add),
    (0x4f, keypad endKey), (0x50, keypad down), (0x51, keypad pageDown),
    (0x52, keypad insert), (0x53, keypad delete),
    (0x54, printScreen), (0x55, unassigned), (0x56, oem102)]
  ++ functionRow 0x57 (f1 + 10) 2
  ++ [(0x59, clear), (0x5a, oemWsCtrl), (0x5b, oemFinish), (0x5c, oemJump),
    (0x5d, eraseEof), (0x5e, oemBackTab), (0x5f, oemAuto), (0x60, unassigned),
    (0x61, unassigned), (0x62, zoom), (0x63, help)]
  ++ functionRow 0x64 f13 11
  ++ [(0x6f, oemPa3), (0x70, unassigned), (0x71, oemReset), (0x72, unassigned),
    (0x73, abntC1), (0x74, unassigned), (0x75, unassigned), (0x76, f24),
    (0x77, unassigned), (0x78, unassigned), (0x79, unassigned), (0x7a, unassigned),
    (0x7b, oemPa1), (0x7c, tab), (0x7d, unassigned), (0x7e, abntC2)]
  ++ [(0x110, mediaPrevTrack), (0x119, mediaNextTrack), (0x11c, enter),
    (0x11d, rightControl), (0x120, volumeMute), (0x121, launchApp2),
    (0x122, mediaPlayPause), (0x124, mediaStop), (0x12e, volumeDown),
    (0x130, volumeUp), (0x132, browserHome), (0x135, divide), (0x137, printScreen),
    (0x138, rightAlt), (0x146, cancel), (0x147, home), (0x148, up), (0x149, pageUp),
    (0x14b, left), (0x14d, right), (0x14f, endKey), (0x150, down), (0x151, pageDown),
    (0x152, insert), (0x153, delete), (0x15b, leftWin), (0x15c, rightWin),
    (0x15d, menu), (0x15f, sleep), (0x165, browserSearch), (0x166, browserFavorites),
    (0x167, browserRefresh), (0x168, browserStop), (0x169, browserForward),
    (0x16a, browserBack), (0x16b, launchApp1), (0x16c, launchMail),
    (0x16d, launchMediaSelect)].map (fun (scan, key) => (scan, key ||| extendedFlag))
  ++ [(0x21d, pause)]

/-- Where a layout's typing block differs from QWERTY. -/
def differences : ScanLayout → List (UInt16 × UInt16)
  | qwerty => []
  | azerty =>
    [(0x0c, oem4)] ++ row 0x10 "AZ" ++ [(0x1a, oem6), (0x1b, oem1)] ++ row 0x1e "Q"
    ++ row 0x27 "M" ++ [(0x28, oem3), (0x29, oem7)] ++ row 0x2c "W"
    ++ [(0x32, oemComma), (0x33, oemPeriod), (0x34, oem2), (0x35, oem8)]
  | qwertz =>
    [(0x0c, oem4), (0x0d, oem6)] ++ row 0x15 "Z"
    ++ [(0x1a, oem1), (0x1b, oem3), (0x27, oem7), (0x28, oem5), (0x29, oem2), (0x2b, oem8)]
    ++ row 0x2c "Y" ++ [(0x35, oemMinus)]
  | dvorak =>
    [(0x0c, oem4), (0x0d, oem6), (0x10, oem7), (0x11, oemComma), (0x12, oemPeriod)]
    ++ row 0x13 "PYFGCRL" ++ [(0x1a, oem2), (0x1b, oemPlus)]
    ++ row 0x1f "OEUIDHTNS" ++ [(0x28, oemMinus), (0x2c, oem1)] ++ row 0x2d "QJKXBMWVZ"

/-- One more than the largest scan code that a layout may assign. -/
def tableSize : Nat := 0x280

/-- The assignments of a layout. Where a scan code occurs twice, the first one
counts. -/
def assignments (layout : ScanLayout) : List (UInt16 × UInt16) :=
  layout.differences ++ qwertyBlock ++ sharedKeys

/-- The virtual key of a scan code with its flags, 0 where there is none. -/
def virtualKey (layout : ScanLayout) (scan : UInt16) : UInt16 :=
  (layout.assignments.lookup scan).getD 0

/-- The virtual keys of the scan codes `start ≤ scan < stop`, if the table has
that range. -/
def slice? (layout : ScanLayout) (start stop : Nat) : Option (List UInt16) :=
  if start ≤ stop ∧ stop ≤ tableSize then
    some ((List.range' start (stop - start)).map fun scan => layout.virtualKey (UInt16.ofNat scan))
  else none

end ScanLayout

end InputBridge
