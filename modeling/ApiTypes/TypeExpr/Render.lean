import ApiTypes.TypeExpr.Basic
import ApiTypes.TypeExpr.Name

/-!
Type expressions as source text.

A postfix `[]` binds tighter than `&`, and `&` tighter than `|`, so a union stands in parentheses
inside an intersection, and both do under `[]`. A union or intersection of one member is written as
that member. Each open block object indents the lines inside it by one step.
-/

namespace ApiTypes

/-- Digits without a leading zero. -/
def Key.isInteger (text : String) : Bool :=
  match text.toList with
  | [] => false
  | ['0'] => true
  | c :: rest => c != '0' && (c :: rest).all Char.isDigit

def Key.render (key : Key) : String :=
  if !key.quoted && (TypeName.isIdentifier key.text || Key.isInteger key.text) then key.text
  else Json.quote key.text

namespace TypeExpr

/-- Whether the expression is written as a union of several members. -/
def isUnion : TypeExpr → Bool
  | .union [single] => isUnion single
  | .union (_ :: _ :: _) => true
  | _ => false

/-- Whether the expression is written with an operator between several members. -/
def isCompound : TypeExpr → Bool
  | .union [single] => isCompound single
  | .union (_ :: _ :: _) => true
  | .intersection [single] => isCompound single
  | .intersection (_ :: _ :: _) => true
  | _ => false

def spaces (count : Nat) : String := String.ofList (List.replicate count ' ')

/-- What is written so far, inside how many block objects. -/
structure Writer where
  /-- The number of spaces for each block object. -/
  width : Nat
  text : String := ""
  depth : Nat := 0
deriving Repr, Inhabited

namespace Writer

def push (writer : Writer) (text : String) : Writer := { writer with text := writer.text ++ text }

def indent (writer : Writer) : Writer :=
  Nat.repeat (·.push (spaces writer.width)) writer.depth writer

def enter (writer : Writer) : Writer := { writer with depth := writer.depth + 1 }

def leave (writer : Writer) : Writer := { writer with depth := writer.depth - 1 }

/-- Writes something, if need be in parentheses. -/
def grouped (writer : Writer) (parentheses : Bool) (write : Writer → Writer) : Writer :=
  if parentheses then (write (writer.push "(")).push ")" else write writer

end Writer

mutual

def write : TypeExpr → Writer → Writer
  | .literal text, w => w.push text
  | .object _ [], w => w.push (Text.inBraces "")
  | .object .inline members, w => (writeInline members (w.push "\x7b ")).push " \x7d"
  | .object .block members, w =>
    (writeBlock members (w.push "\x7b\n").enter).leave.indent.push "\x7d"
  | .union [], w => w.push "never"
  | .union members, w => writeJoined " | " false members w
  | .intersection [], w => w.push "unknown"
  | .intersection members, w => writeJoined " & " true members w
  | .generic name arguments, w =>
    (writeJoined ", " false arguments ((w.push name).push "<")).push ">"
  | .array item, w => (w.grouped item.isCompound (write item)).push "[]"

def writeJoined (separator : String) (groupUnions : Bool) : List TypeExpr → Writer → Writer
  | [], w => w
  | [member], w => w.grouped (groupUnions && member.isUnion) (write member)
  | member :: rest, w =>
    writeJoined separator groupUnions rest
      ((w.grouped (groupUnions && member.isUnion) (write member)).push separator)

def writeInline : List (Member TypeExpr) → Writer → Writer
  | [], w => w
  | [member], w => writeMember member w
  | member :: rest, w => writeInline rest ((writeMember member w).push "; ")

/-- The lines of a block object; a semicolon ends every line but the last. -/
def writeBlock : List (Member TypeExpr) → Writer → Writer
  | [], w => w
  | [member], w => (writeMember member w.indent).push "\n"
  | member :: rest, w => writeBlock rest (((writeMember member w.indent).push ";").push "\n")

def writeMember : Member TypeExpr → Writer → Writer
  | ⟨key, optional, type⟩, w =>
    write type (((w.push key.render).push (if optional then "?" else "")).push ": ")

end

/-- The number of spaces for a block object unless told otherwise. -/
def defaultWidth : Nat := 4

def render (width : Nat) (type : TypeExpr) : String := (write type { width }).text

end TypeExpr

end ApiTypes
