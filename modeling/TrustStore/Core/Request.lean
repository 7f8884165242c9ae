import TrustStore.Base.Fallible

/-!
# Requests, answers and the exceptions of the trust store

Models `include/core/trust/tagged_integer.h`, `include/core/trust/request.h:54–79` and
the exception classes thrown across the library. Machine integers keep their width and
signedness; a timestamp is the tick count of `std::chrono::system_clock`.
-/

namespace TrustStore

/-- What a tagged integer stands for; `include/core/trust/tagged_integer.h:87–97`. -/
inductive Tag where
  | gid
  | pid
  | uid
  | feature

/-- An integer tagged with its semantics; `include/core/trust/tagged_integer.h:34–57`. -/
structure TaggedInteger (tag : Tag) (Integer : Type) where
  value : Integer
  deriving DecidableEq, Repr

/-- Group ids, `gid_t`; `include/core/trust/tagged_integer.h:100`. -/
abbrev Gid := TaggedInteger .gid UInt32

/-- User ids, `uid_t`; `include/core/trust/tagged_integer.h:104`. -/
abbrev Uid := TaggedInteger .uid UInt32

/-- Process ids, `pid_t`; `include/core/trust/tagged_integer.h:102`. -/
abbrev Pid := TaggedInteger .pid Int32

/-- Service-specific features; `include/core/trust/tagged_integer.h:105–106`. -/
abbrev Feature := TaggedInteger .feature UInt64

/-- Tagged integers are equal when their values are. -/
theorem TaggedInteger.ext {tag : Tag} {Integer : Type} {a b : TaggedInteger tag Integer}
    (h : a.value = b.value) : a = b := by
  cases a
  cases b
  cases h
  rfl

/-- Ticks of the wall clock since the epoch; `include/core/trust/request.h:56–59`. -/
abbrev Timestamp := Int64

/-- The possible answers of a user; `include/core/trust/request.h:64–69`. -/
inductive Answer where
  | denied
  | granted
  deriving DecidableEq, Repr, Inhabited

namespace Answer

/-- `static_cast<int>`: the enumerators are 0 and 1. -/
def toInt32 : Answer → Int32
  | denied => 0
  | granted => 1

/-- The cast back from an integer. Only 0 and 1 name an enumerator, and only they are
ever stored; any other integer compares unequal to `granted`. -/
def ofInt32 (i : Int32) : Answer := if i = 1 then granted else denied

/-- The cast recovers every enumerator. -/
@[simp] theorem ofInt32_toInt32 (a : Answer) : ofInt32 a.toInt32 = a := by
  cases a <;> rfl

end Answer

/-- A trust request answered by the user; `include/core/trust/request.h:54–79`.
`origin` is the source's `from`, a word that Lean reserves. -/
structure Request where
  origin : String
  feature : Feature
  when : Timestamp
  answer : Answer
  deriving DecidableEq, Repr

/-- The exceptions thrown in the library. -/
inductive Exception where
  /-- `std::runtime_error` with its message. -/
  | runtimeError (what : String)
  /-- `Store::Errors::ErrorResettingStore`; `include/core/trust/store.h:73–79`. -/
  | errorResettingStore (what : String)
  /-- `Store::Query::Errors::NoCurrentResult`; `include/core/trust/store.h:108–113`. -/
  | noCurrentResult
  /-- `Store::Query::Errors::QueryIsInErrorState`; `include/core/trust/store.h:98–103`. -/
  | queryIsInErrorState
  /-- `PrivilegeEscalationPreventionAgent::Error`. -/
  | privilegeEscalation
  /-- `std::system_error` with its error value. -/
  | systemError (code : Int)
  /-- `std::logic_error` with its message. -/
  | logicError (what : String)
  /-- `std::out_of_range`, as thrown by `std::map::at`. -/
  | outOfRange
  deriving DecidableEq, Repr

namespace Exception

/-- Whether `catch (const std::runtime_error&)` takes the exception. -/
def isRuntimeError : Exception → Bool
  | runtimeError _ | errorResettingStore _ | noCurrentResult | queryIsInErrorState
  | privilegeEscalation | systemError _ => true
  | logicError _ | outOfRange => false

/-- The message of an exception, where the source fixes it. -/
def what : Exception → String
  | runtimeError what | errorResettingStore what | logicError what => what
  | noCurrentResult => "Query does not have a current result."
  | queryIsInErrorState => "Query is in error state, cannot extract result."
  | privilegeEscalation => "Potential privilege escalation attack detected."
  | systemError _ => "system error"
  | outOfRange => "map::at"

end Exception
end TrustStore
