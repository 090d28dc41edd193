import ObjectStore.Client.Exchange
import ObjectStore.Json.Printer
import ObjectStore.Json.Tree
import ObjectStore.Transport.Scripted

/-!
A transport with faults put in on purpose: chosen requests get another answer, or the right answer with
some of its fields changed.
-/

namespace ObjectStore

inductive FaultAction where
  | replace (outcome : ScriptedOutcome)
  | overwrite (fields : List (String × Json.Value))
deriving Repr

/-- Applies to the requests of a kind, from the one behind `skip` others, `times` times if that is
given. -/
structure FaultRule where
  method : Option Method
  host : Option String
  skip : Nat
  times : Option Nat
  action : FaultAction
deriving Repr

namespace FaultRule

def concerns (rule : FaultRule) (request : HttpRequest) : Bool :=
  rule.method.all (· == request.method) && rule.host.all (· == request.url.hostText)

def appliesAt (rule : FaultRule) (count : Nat) : Bool :=
  rule.skip ≤ count && rule.times.all fun times => count < rule.skip + times

end FaultRule

structure CountedRule where
  rule : FaultRule
  count : Nat
deriving Repr

structure Faulty (σ : Type) where
  rules : List CountedRule
  inner : σ
deriving Repr

namespace Faulty

def start {σ : Type} (rules : List FaultRule) (inner : σ) : Faulty σ :=
  ⟨rules.map fun rule => ⟨rule, 0⟩, inner⟩

/-- The first rule that applies to a request. The rules behind it are not asked and do not count. -/
def choose (request : HttpRequest) : List CountedRule → Option FaultAction × List CountedRule
  | [] => (none, [])
  | counted :: rest =>
      if counted.rule.concerns request then
        let next := { counted with count := counted.count + 1 }
        if counted.rule.appliesAt counted.count then (some counted.rule.action, next :: rest)
        else
          let (action, later) := choose request rest
          (action, next :: later)
      else
        let (action, later) := choose request rest
        (action, counted :: later)

def overwriteFields (fields : List (String × Json.Value)) (response : HttpResponse) : HttpResponse :=
  if !Status.isSuccess response.status then response
  else match response.body.collect.toOption.bind fun bytes => (Json.parse bytes).toOption with
    | some (.object members) =>
        let changed := Json.Value.ofMembers (members ++ fields)
        { response with body := .ofBytes (Bytes.ofText changed.compact) }
    | _ => response

def transport {σ : Type} (inner : Transport σ) : Transport (Faulty σ) := fun request faulty =>
  let (action, rules) := choose request faulty.rules
  match action with
  | some (.replace outcome) => (outcome.reply, { faulty with rules })
  | some (.overwrite fields) =>
      match inner request faulty.inner with
      | (.answer (.ok response), after) => (.answer (.ok (overwriteFields fields response)), ⟨rules, after⟩)
      | (reply, after) => (reply, ⟨rules, after⟩)
  | none =>
      let (reply, after) := inner request faulty.inner
      (reply, ⟨rules, after⟩)

end Faulty

end ObjectStore
