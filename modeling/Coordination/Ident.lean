/-!
# Identifiers

Processes and sagas have identifiers of their own, which cannot be confused: an `Ident` carries in its type what
it names. Identifiers are compared by the code points of their text, which is also the order of the UTF-8 bytes.
-/

namespace Coordination

/-- What an identifier can name. -/
inductive Subject where
  | process
  | saga
  deriving DecidableEq, Repr

def Subject.title : Subject → String
  | .process => "ProcessId"
  | .saga => "SagaId"

structure Ident (s : Subject) where
  text : String
  deriving DecidableEq, Repr

abbrev ProcessId := Ident .process
abbrev SagaId := Ident .saga

namespace Ident

variable {s : Subject}

instance : ToString (Ident s) := ⟨Ident.text⟩

/-- The identifier with its kind, as diagnostics show it. -/
def inspect (i : Ident s) : String := s.title ++ "(" ++ i.text ++ ")"

def cmp (i j : Ident s) : Ordering := compare i.text j.text

/-- A generated identifier writes 128 bits as 32 lower-case hexadecimal digits. -/
def ofBits (bits : BitVec 128) : Ident s := ⟨bits.toHex⟩

/-- The `n`-th identifier handed out in a reproducible session, counted from one. -/
def nth (n : Nat) : Ident s := ⟨"gen-" ++ toString n⟩

theorem nth_inj {m n : Nat} (h : (nth m : Ident s) = nth n) : m = n := by
  have htext : "gen-" ++ Nat.repr m = "gen-" ++ Nat.repr n := congrArg Ident.text h
  have hdigits := congrArg String.toList ((String.append_right_inj _).1 htext)
  rw [Nat.toList_repr, Nat.toList_repr] at hdigits
  -- the number can be read back from its digits
  simpa using congrArg (fun ds => Nat.ofDigitChars 10 ds 0) hdigits

end Ident

end Coordination
