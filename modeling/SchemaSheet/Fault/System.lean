import SchemaSheet.Fault.Codes
import SchemaSheet.Text.Basic

/-! What the system may answer instead of doing what it was asked to do. -/

namespace SchemaSheet

inductive SystemFault where
  /-- A system call failed with this error number. -/
  | code (number : Nat)
  /-- A path holds the character that ends paths in system calls. -/
  | nulInPath
  /-- What was to be read as text is not UTF-8. -/
  | notText
  | other (text : Text)
  deriving DecidableEq, Repr

namespace SystemFault

def noEntry : SystemFault := .code 2
def alreadyExists : SystemFault := .code 17
def notDirectory : SystemFault := .code 20
def isDirectory : SystemFault := .code 21
def nameTooLong : SystemFault := .code 36

def codeText (n : Nat) : Text :=
  match codeTexts.lookup n with
  | some t => t.toList
  | none => "Unknown error ".toList ++ Text.ofNat n

def message : SystemFault → Text
  | code n => codeText n ++ " (os error ".toList ++ Text.ofNat n ++ [')']
  | nulInPath => "file name contained an unexpected NUL byte".toList
  | notText => "stream did not contain valid UTF-8".toList
  | other t => t

end SystemFault

end SchemaSheet
