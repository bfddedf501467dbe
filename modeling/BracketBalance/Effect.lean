/-
  BracketBalance.Effect — what a part of the process does.

  It prints, and then it either comes to a value or ends the process with an exit
  status. Two effects follow each other with `andThen`: the second happens only if the
  first does not end the process.
-/

namespace BracketBalance

/-- What is printed. `Line` is what a line on the standard error can be. -/
structure Output (Line : Type) where
  stdout : String
  stderr : List Line
  deriving DecidableEq, Repr

namespace Output

variable {Line Line' : Type}

def empty : Output Line := ⟨"", []⟩

def append (a b : Output Line) : Output Line := ⟨a.stdout ++ b.stdout, a.stderr ++ b.stderr⟩

def relabel (f : Line → Line') (a : Output Line) : Output Line' := ⟨a.stdout, a.stderr.map f⟩

@[simp] theorem empty_append (a : Output Line) : empty.append a = a := by simp [empty, append]

end Output

structure Effect (Line Value : Type) where
  output : Output Line
  /-- The value, or the exit status that the process ends with. -/
  result : Except Nat Value

namespace Effect

variable {Line Line' Value Value' : Type}

def done (v : Value) : Effect Line Value := ⟨.empty, .ok v⟩

def exit (status : Nat) (output : Output Line) : Effect Line Value := ⟨output, .error status⟩

def andThen (e : Effect Line Value) (f : Value → Effect Line Value') : Effect Line Value' :=
  match e.result with
  | .error status => ⟨e.output, .error status⟩
  | .ok v => ⟨e.output.append (f v).output, (f v).result⟩

def relabel (f : Line → Line') (e : Effect Line Value) : Effect Line' Value := ⟨e.output.relabel f, e.result⟩

@[simp] theorem relabel_done (f : Line → Line') (v : Value) : (done v).relabel f = done v := rfl

@[simp] theorem done_andThen (v : Value) (f : Value → Effect Line Value') : (done v).andThen f = f v := by
  simp [andThen, done]

theorem andThen_of_ok {e : Effect Line Value} {v : Value} (h : e.result = .ok v) (f : Value → Effect Line Value') :
    e.andThen f = ⟨e.output.append (f v).output, (f v).result⟩ := by
  simp [andThen, h]

theorem relabel_andThen_of_ok {e : Effect Line Value} {v : Value} (h : e.result = .ok v) (g : Line → Line')
    (f : Value → Effect Line' Value') :
    (e.relabel g).andThen f = ⟨(e.output.relabel g).append (f v).output, (f v).result⟩ :=
  andThen_of_ok (e := e.relabel g) h f

/-- Nothing is printed on the standard output, and the process goes on. -/
def Aside (e : Effect Line Value) : Prop := e.output.stdout = "" ∧ ∃ v, e.result = .ok v

theorem aside_done (v : Value) : (done v : Effect Line Value).Aside := ⟨rfl, v, rfl⟩

theorem Aside.andThen {e : Effect Line Value} {f : Value → Effect Line Value'} (he : e.Aside)
    (hf : ∀ v, (f v).Aside) : (e.andThen f).Aside := by
  obtain ⟨hs, v, hv⟩ := he
  obtain ⟨hs', hv'⟩ := hf v
  rw [andThen_of_ok hv]
  exact ⟨by simp [Output.append, hs, hs'], hv'⟩

end Effect

end BracketBalance
