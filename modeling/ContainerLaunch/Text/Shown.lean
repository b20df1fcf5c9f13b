import ContainerLaunch.Text.Quoted

/-! # Values shown as text

How the log shows the values it mentions: byte strings quoted, lists in brackets, and records with
their name and the name of each field.
-/

namespace ContainerLaunch.Shown

def list {α : Type} (shown : α → Text) (items : List α) : Text :=
  ['['] ++ Text.join ", ".toList (items.map shown) ++ [']']

def byteStrings (items : List Bytes) : Text := list Quoted.write items

def text (value : Text) : Text := Quoted.write (Utf8.encode value)

def truth (value : Bool) : Text := if value then "true".toList else "false".toList

def field (name : String) (value : Text) : Text := name.toList ++ ": ".toList ++ value

/-- A record with at least one field. -/
def record (name : String) (fields : List Text) : Text :=
  name.toList ++ " \x7b ".toList ++ Text.join ", ".toList fields ++ " \x7d".toList

end ContainerLaunch.Shown
