import Companions.Eval.Interpreter
import Companions.Proofs.Source.Writing
set_option autoImplicit false

/-!
# The messages of errors

A message is written with the names of the function, the value or the class that it is about.  It is
written when the error comes up, so a call faults where one of these names is unknown
(`EvalError.worded_cases`).
-/

namespace Companions

/-- The names that the value is written with. -/
def Value.names : Value → List Name
  | .string text => [text]
  | .object c => c.names
  | _ => []

/-- The names that the message is written with. -/
def EvalError.names : EvalError → List Name
  | .uncaught exception => (exception.class?.map ClassId.names).getD []
  | .missingBody function => function.names
  | .missingRoot function => function.names
  | .notThrowable value => value.names
  | .nonBoolCondition value => value.names
  | _ => []

namespace NameTable

/-- The fault of asking for a name that the table does not hold. -/
def Lacks (names : NameTable) (fault : Fault) : Prop :=
  ∃ n, fault = .unknownName n ∧ ¬ names.Knows n

/-- There is something to write, or one of the names is unknown. -/
def Answers {α : Type} (names : NameTable) (asked : List Name) (x : Except Fault α) : Prop :=
  (∃ a, x = .ok a) ∨ ∃ n ∈ asked, x = .error (.unknownName n) ∧ ¬ names.Knows n

variable {names : NameTable} {asked : List Name} {α β : Type}

theorem Knows.exists_text {n : Name} (h : names.Knows n) : ∃ text, names.text n = .ok text := by
  obtain ⟨text, htext⟩ := h
  exact ⟨text, orFault_eq_ok_iff.2 htext⟩

namespace Answers

theorem of_ok (a : α) : names.Answers asked (.ok a : Except Fault α) := .inl ⟨a, rfl⟩

theorem bind {x : Except Fault α} {f : α → Except Fault β} (hx : names.Answers asked x)
    (hf : ∀ a, names.Answers asked (f a)) : names.Answers asked (x >>= f) := by
  rcases hx with ⟨a, rfl⟩ | ⟨n, hn, rfl, hunknown⟩
  · exact hf a
  · exact .inr ⟨n, hn, rfl, hunknown⟩

theorem text {n : Name} (h : n ∈ asked) : names.Answers asked (names.text n) := by
  by_cases hknown : names.Knows n
  · exact .inl hknown.exists_text
  · refine .inr ⟨n, h, ?_, hknown⟩
    have hnone : names.text? n = none := Option.eq_none_iff_forall_ne_some.2 fun text htext =>
      hknown ⟨text, htext⟩
    rw [NameTable.text, hnone]
    rfl

theorem display {c : ClassId} (h : ∀ n ∈ c.names, n ∈ asked) :
    names.Answers asked (c.display names) :=
  (text (h c.package (by simp [ClassId.names]))).bind fun _ =>
    (text (h c.name (by simp [ClassId.names]))).bind fun _ => of_ok _

/-- Where all names are known, there is something to write. -/
theorem exists_ok {x : Except Fault α} (h : names.Answers asked x)
    (hknown : ∀ n ∈ asked, names.Knows n) : ∃ a, x = .ok a := by
  rcases h with hok | ⟨n, hn, -, hunknown⟩
  · exact hok
  · exact absurd (hknown n hn) hunknown

end Answers

end NameTable

variable {names : NameTable}

theorem CallableId.answers_display (id : CallableId) :
    names.Answers id.names (id.display names) := by
  obtain ⟨package, owner, name⟩ := id
  refine (NameTable.Answers.text (name_mem_names _)).bind fun _ => ?_
  cases owner with
  | none => exact (NameTable.Answers.text (by simp [CallableId.names])).bind fun _ => .of_ok _
  | some owner =>
    refine (NameTable.Answers.display fun n hn => ?_).bind fun _ => .of_ok _
    exact mem_names_of_owner rfl hn

theorem Value.answers_display (v : Value) : names.Answers v.names (v.display names) := by
  cases v with
  | string text => exact .text (List.mem_singleton_self text)
  | object c => exact (NameTable.Answers.display fun _ hn => hn).bind fun _ => .of_ok _
  | boolean b => cases b <;> exact .of_ok _
  | _ => exact .of_ok _

namespace EvalError

/-- A message is written, or one of the names in it is unknown. -/
theorem answers_message (names : NameTable) (e : EvalError) :
    names.Answers e.names (e.message names) := by
  cases e with
  | uncaught exception =>
    cases exception with
    | object c => exact (NameTable.Answers.display fun _ hn => hn).bind fun _ => .of_ok _
    | _ => exact .of_ok _
  | missingBody function => exact function.answers_display.bind fun _ => .of_ok _
  | missingRoot function => exact function.answers_display.bind fun _ => .of_ok _
  | notThrowable value => exact value.answers_display.bind fun _ => .of_ok _
  | nonBoolCondition value => exact value.answers_display.bind fun _ => .of_ok _
  | _ => exact .of_ok _

/-- An error whose names are known has a message. -/
theorem exists_message {e : EvalError} (h : ∀ n ∈ e.names, names.Knows n) :
    ∃ text, e.message names = .ok text :=
  (e.answers_message names).exists_ok h

/-- An error comes up as it is, with a message, or its message asks for an unknown name. -/
theorem worded_cases (names : NameTable) (e : EvalError) :
    ((∃ text, e.message names = .ok text) ∧ e.worded names = .ok e) ∨
      ∃ n ∈ e.names, e.worded names = .error (.unknownName n) ∧ ¬ names.Knows n := by
  rcases e.answers_message names with ⟨text, htext⟩ | ⟨n, hn, hfault, hunknown⟩
  · exact .inl ⟨⟨text, htext⟩, by rw [worded, htext]; rfl⟩
  · exact .inr ⟨n, hn, by rw [worded, hfault]; rfl, hunknown⟩

theorem worded_of_message {e : EvalError} {text : String} (h : e.message names = .ok text) :
    e.worded names = .ok e := by
  rw [worded, h]
  rfl

theorem worded_of_known {e : EvalError} (h : ∀ n ∈ e.names, names.Knows n) :
    e.worded names = .ok e := by
  obtain ⟨text, htext⟩ := exists_message h
  exact worded_of_message htext

theorem eq_of_worded {e e' : EvalError} (h : e.worded names = .ok e') :
    e' = e ∧ ∃ text, e.message names = .ok text := by
  rcases e.worded_cases names with ⟨hmessage, hok⟩ | ⟨n, -, hfault, -⟩
  · exact ⟨Except.ok.inj (h.symm.trans hok), hmessage⟩
  · rw [hfault] at h
    cases h

theorem lacks_of_worded {e : EvalError} {fault : Fault} (h : e.worded names = .error fault) :
    names.Lacks fault := by
  rcases e.worded_cases names with ⟨-, hok⟩ | ⟨n, -, hfault, hunknown⟩
  · rw [hok] at h
    cases h
  · exact ⟨n, Except.error.inj (h.symm.trans hfault), hunknown⟩

/-- The message about an exception that was not caught names its class. -/
theorem message_uncaught (c : ClassId) : (EvalError.uncaught (.object c)).message names =
    (c.display names).map fun path => "uncaught exception: " ++ path := by
  rw [message]
  dsimp only [Value.class?]
  cases c.display names <;> rfl

/-- An error about an object comes up if the path of its class can be written. -/
theorem worded_of_display {c : ClassId} {path : String} (h : c.display names = .ok path)
    {e : EvalError} (he : e = .uncaught (.object c) ∨ e = .notThrowable (.object c)) :
    e.worded names = .ok e := by
  rcases he with rfl | rfl
  · rw [worded, message_uncaught, h]
    rfl
  · rw [worded, message, Value.display, h]
    rfl

end EvalError

end Companions
