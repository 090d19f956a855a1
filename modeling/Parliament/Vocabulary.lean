/-! # Vocabularies

Some kinds of thing are written as one word out of a fixed list.
-/

namespace Parliament

class Vocabulary (κ : Type) where
  title : String
  all : List κ
  word : κ → String

structure UnknownWord where
  title : String
  text : String
deriving DecidableEq

def UnknownWord.message (e : UnknownWord) : String := s!"unknown {e.title}: {e.text}"

def Vocabulary.find? (κ : Type) [Vocabulary κ] (text : String) : Option κ :=
  (Vocabulary.all : List κ).find? fun k => Vocabulary.word k == text

def Vocabulary.read (κ : Type) [Vocabulary κ] (text : String) : Except UnknownWord κ :=
  match Vocabulary.find? κ text with
  | some k => .ok k
  | none => .error ⟨Vocabulary.title κ, text⟩

end Parliament
