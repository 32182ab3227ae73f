-- SUMMARY: Virtual keys, their flags, and the digits of the keypad.

/-!
# Virtual keys

The numbers that name keys independently of where they sit, the flags that a scan
table stores beside them, and the digits that Num Lock turns the keypad's
navigation keys into.
-/

namespace InputBridge

namespace VirtualKey

def cancel : UInt16 := 0x03
def backspace : UInt16 := 0x08
def tab : UInt16 := 0x09
def clear : UInt16 := 0x0c
def enter : UInt16 := 0x0d
def shift : UInt16 := 0x10
def control : UInt16 := 0x11
def pause : UInt16 := 0x13
def capsLock : UInt16 := 0x14
def escape : UInt16 := 0x1b
def space : UInt16 := 0x20
def pageUp : UInt16 := 0x21
def pageDown : UInt16 := 0x22
def endKey : UInt16 := 0x23
def home : UInt16 := 0x24
def left : UInt16 := 0x25
def up : UInt16 := 0x26
def right : UInt16 := 0x27
def down : UInt16 := 0x28
def printScreen : UInt16 := 0x2c
def insert : UInt16 := 0x2d
def delete : UInt16 := 0x2e
def help : UInt16 := 0x2f
def leftWin : UInt16 := 0x5b
def rightWin : UInt16 := 0x5c
def menu : UInt16 := 0x5d
def sleep : UInt16 := 0x5f
def numpad0 : UInt16 := 0x60
def numpad1 : UInt16 := 0x61
def numpad2 : UInt16 := 0x62
def numpad3 : UInt16 := 0x63
def numpad4 : UInt16 := 0x64
def numpad5 : UInt16 := 0x65
def numpad6 : UInt16 := 0x66
def numpad7 : UInt16 := 0x67
def numpad8 : UInt16 := 0x68
def numpad9 : UInt16 := 0x69
def multiply : UInt16 := 0x6a
def add : UInt16 := 0x6b
def subtract : UInt16 := 0x6d
def decimal : UInt16 := 0x6e
def divide : UInt16 := 0x6f
def f1 : UInt16 := 0x70
def f13 : UInt16 := 0x7c
def f24 : UInt16 := 0x87
def numLock : UInt16 := 0x90
def scrollLock : UInt16 := 0x91
def leftShift : UInt16 := 0xa0
def rightShift : UInt16 := 0xa1
def leftControl : UInt16 := 0xa2
def rightControl : UInt16 := 0xa3
def leftAlt : UInt16 := 0xa4
def rightAlt : UInt16 := 0xa5
def browserBack : UInt16 := 0xa6
def browserForward : UInt16 := 0xa7
def browserRefresh : UInt16 := 0xa8
def browserStop : UInt16 := 0xa9
def browserSearch : UInt16 := 0xaa
def browserFavorites : UInt16 := 0xab
def browserHome : UInt16 := 0xac
def volumeMute : UInt16 := 0xad
def volumeDown : UInt16 := 0xae
def volumeUp : UInt16 := 0xaf
def mediaNextTrack : UInt16 := 0xb0
def mediaPrevTrack : UInt16 := 0xb1
def mediaStop : UInt16 := 0xb2
def mediaPlayPause : UInt16 := 0xb3
def launchMail : UInt16 := 0xb4
def launchMediaSelect : UInt16 := 0xb5
def launchApp1 : UInt16 := 0xb6
def launchApp2 : UInt16 := 0xb7
def oem1 : UInt16 := 0xba
def oemPlus : UInt16 := 0xbb
def oemComma : UInt16 := 0xbc
def oemMinus : UInt16 := 0xbd
def oemPeriod : UInt16 := 0xbe
def oem2 : UInt16 := 0xbf
def oem3 : UInt16 := 0xc0
def abntC1 : UInt16 := 0xc1
def abntC2 : UInt16 := 0xc2
def oem4 : UInt16 := 0xdb
def oem5 : UInt16 := 0xdc
def oem6 : UInt16 := 0xdd
def oem7 : UInt16 := 0xde
def oem8 : UInt16 := 0xdf
def oem102 : UInt16 := 0xe2
def icoClear : UInt16 := 0xe6
def oemReset : UInt16 := 0xe9
def oemJump : UInt16 := 0xea
def oemPa1 : UInt16 := 0xeb
def oemPa3 : UInt16 := 0xed
def oemWsCtrl : UInt16 := 0xee
def oemFinish : UInt16 := 0xf1
def oemAuto : UInt16 := 0xf3
def oemBackTab : UInt16 := 0xf5
def eraseEof : UInt16 := 0xf9
def zoom : UInt16 := 0xfb
def unnamed : UInt16 := 0xfc
def unassigned : UInt16 := 0xff

/-! ## Flags that a scan table stores above the key's low byte -/

def extendedFlag : UInt16 := 0x100
def multipleFlag : UInt16 := 0x200
def specialFlag : UInt16 := 0x400
def numpadFlag : UInt16 := 0x800

/-! ## Num Lock -/

/-- The keypad's navigation keys, each with the key it is under Num Lock. -/
def numpadDigits : List (UInt16 × UInt16) := [
  (insert, numpad0), (endKey, numpad1), (down, numpad2), (pageDown, numpad3),
  (left, numpad4), (clear, numpad5), (right, numpad6), (home, numpad7),
  (up, numpad8), (pageUp, numpad9), (delete, decimal)]

/-- The key that a navigation key, given with or without flags, is under Num
Lock. -/
def numpadDigit? (key : UInt16) : Option UInt16 :=
  numpadDigits.lookup (key &&& 0xff)

end VirtualKey

end InputBridge
