import ConsentBanner.Text.GeneralCategory

/-!
# Quoting a text for a message

A quoted text shows every character that can be shown alone as it is; quotes, backslashes and the
common control characters take their two-character escapes, and all others are written by their
hexadecimal code between braces.
-/

set_option autoImplicit false

namespace ConsentBanner.Text

/-- Code points that extend the character before them although their category does not say so. -/
def extendingCodes : List Nat := [
  0x9BE, 0x9D7, 0xB3E, 0xB57, 0xBBE, 0xBD7, 0xCC0, 0xCC2, 0xCC7, 0xCC8, 0xCCA, 0xCCB, 0xCD5, 0xCD6,
  0xD3E, 0xD57, 0xDCF, 0xDDF, 0x1B35, 0x302E, 0x302F, 0xFF9E, 0xFF9F, 0x1133E, 0x11357, 0x114B0,
  0x114BD, 0x115AF, 0x11930, 0x1D165, 0x1D16E, 0x1D16F, 0x1D170, 0x1D171, 0x1D172]

/-- A character that cannot be shown alone: control and format characters, separators other than the
blank, private and unassigned code points, and marks that combine with what stands before them. -/
def isShapeless (c : Char) : Bool :=
  if 32 ≤ c.toNat && c.toNat < 127 then false
  else
    ["Cc", "Cf", "Cs", "Co", "Cn", "Zl", "Zp", "Zs", "Me", "Mn"].contains (generalCategory c) ||
      extendingCodes.contains c.toNat

def quotedChar (c : Char) : List Char :=
  if c.toNat = 0 then ['\\', '0']
  else if c = '\t' then ['\\', 't']
  else if c = '\r' then ['\\', 'r']
  else if c = '\n' then ['\\', 'n']
  else if c = '"' then ['\\', '"']
  else if c = '\\' then ['\\', '\\']
  else if isShapeless c then
    ['\\', 'u', Char.ofNat 0x7B] ++ Nat.toDigits 16 c.toNat ++ [Char.ofNat 0x7D]
  else [c]

def quoted (text : String) : String :=
  "\"" ++ String.ofList (text.toList.flatMap quotedChar) ++ "\""

end ConsentBanner.Text
