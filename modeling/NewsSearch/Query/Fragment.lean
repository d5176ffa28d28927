/-!
# Query fragments

A query is a row of fragments: clauses of the query text, each with the space that ends it, and
parameters of the URL.
-/

namespace NewsSearch

inductive Fragment
  | clause (text : String)
  | param (name value : String)
deriving DecidableEq, Repr

def Fragment.text : Fragment → String
  | .clause text => text
  | .param name value => "&" ++ name ++ "=" ++ value

structure Query where
  fragments : List Fragment
deriving DecidableEq, Repr

namespace Query

def empty : Query := ⟨[]⟩

def push (q : Query) (fragment : Fragment) : Query := ⟨q.fragments ++ [fragment]⟩

def pushClause (q : Query) (text : String) : Query := q.push (.clause text)

def pushParam (q : Query) (name value : String) : Query := q.push (.param name value)

/-- The clauses one after another, which is the query text that the API is sent. -/
def clauses (q : Query) : String :=
  String.join (q.fragments.filterMap fun
    | .clause text => some text
    | .param _ _ => none)

/-- The parameters in order. -/
def params (q : Query) : List (String × String) :=
  q.fragments.filterMap fun
    | .clause _ => none
    | .param name value => some (name, value)

/-- The whole query as one text, not escaped. -/
def text (q : Query) : String := String.join (q.fragments.map Fragment.text)

end Query

end NewsSearch
