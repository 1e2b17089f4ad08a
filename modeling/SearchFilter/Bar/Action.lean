import SearchFilter.Bar.Basic
import SearchFilter.Filter.Compile
import SearchFilter.Filter.Grouped
import SearchFilter.Filter.Preview

/-! Runs of the filter bar: its actions, what each of them answers, and the views of a bar. -/

namespace SearchFilter

inductive Action where
  | push (clause : Clause)
  | insertAfter (index : Nat) (connector : Connector)
  | update (index : Nat) (content : Clause)
  | setConnector (index : Nat) (connector : Connector)
  | toggleDisabled (index : Nat)
  | remove (index : Nat)
  | select (index : Nat) (how : Click)
  | clearSelection
  | createGroup (connector : Connector)
  | removeGroup (id : String)
  | reload

inductive Answer where
  | done
  | index (index : Nat)
  | flag (up : Bool)
  | clause (clause : Clause)
  | group (group : Group)
  | id (id : String)

namespace Bar

def answer (bar : Bar) : Action → Answer
  | .push _ => .index bar.clauses.length
  | .insertAfter index _ => .index (index + 1)
  | .toggleDisabled index =>
    match bar.clauses[index]? with
    | some clause => .flag (!clause.disabled)
    | none => .done
  | .remove index =>
    match bar.clauses[index]? with
    | some clause => .clause clause
    | none => .done
  | .createGroup _ => .id (idOf bar.nextNumber)
  | .removeGroup id =>
    match bar.group id with
    | .ok group => .group group
    | .error _ => .done
  | _ => .done

def perform (bar : Bar) : Action → Except GroupError Bar
  | .push clause => .ok (bar.push clause)
  | .insertAfter index connector => bar.insertAfter index connector
  | .update index content => bar.update index content
  | .setConnector index connector => bar.setConnector index connector
  | .toggleDisabled index => bar.toggleDisabled index
  | .remove index => bar.remove index
  | .select index how => bar.select index how
  | .clearSelection => .ok bar.clearSelection
  | .createGroup connector => bar.createGroup connector
  | .removeGroup id => bar.removeGroup id
  | .reload => bar.reload

def after (bar : Bar) (action : Action) : Bar := (bar.perform action).toOption.getD bar

def run (bar : Bar) (actions : List Action) : Bar := actions.foldl after bar

def tree? (bar : Bar) : Option Tree := Tree.ofGroups? bar.clauses bar.groups

def query (bar : Bar) : Option Query := Compiler.compile {} bar.tree?

def preview (bar : Bar) : String := Rules.preview {} bar.tree?

theorem run_nil (bar : Bar) : bar.run [] = bar := rfl

theorem run_cons (bar : Bar) (action : Action) (actions : List Action) :
    bar.run (action :: actions) = (bar.after action).run actions := rfl

end Bar

end SearchFilter
