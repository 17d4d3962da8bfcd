import ProcessStubs.Document.Basic

/-!
# Bean calls

A service task calls a bean if it is implemented by an expression of the form `${bean.method()}`.
The bean's name is not empty and holds no period; the method's name is not empty and holds neither a
period nor an opening parenthesis. Any other character may stand in either.
-/

namespace ProcessStubs

/-- A method of a bean that a service task calls. -/
structure BeanCall where
  bean : String
  method : String
deriving Repr, DecidableEq

namespace BeanCall

/-- The expression of a call of a method of a bean. -/
def expressionChars (bean method : List Char) : List Char :=
  '$' :: '\x7b' :: (bean ++ '.' :: (method ++ ['(', ')', '\x7d']))

/-- Whether a character may stand in the name of a bean. -/
def isBeanChar (c : Char) : Bool := c != '.'

/-- Whether a character may stand in the name of a method. -/
def isMethodChar (c : Char) : Bool := c != '.' && c != '('

/-- The names of the bean and the method in an expression, if it is a call. -/
def ofExpressionChars? : List Char → Option (List Char × List Char)
  | '$' :: '\x7b' :: rest =>
    match rest.dropWhile isBeanChar with
    | '.' :: rest' =>
      let bean := rest.takeWhile isBeanChar
      let method := rest'.takeWhile isMethodChar
      if bean ≠ [] ∧ method ≠ [] ∧ rest'.dropWhile isMethodChar = ['(', ')', '\x7d'] then
        some (bean, method)
      else none
    | _ => none
  | _ => none

/-- The call that an expression makes, if it makes one. -/
def ofExpression? (expression : String) : Option BeanCall :=
  (ofExpressionChars? expression.toList).map fun (bean, method) =>
    ⟨String.ofList bean, String.ofList method⟩

/-- The call of an implementation given by the name of its way and by what it refers to. -/
def match? (typeName reference : Option String) : Option BeanCall :=
  if typeName = some BindingForm.expression.name then reference.bind ofExpression? else none

/-- The call that a service task makes, if it makes one. -/
def ofTask? (task : ServiceTask) : Option BeanCall :=
  match? task.implementation.typeName? task.implementation.reference?

end BeanCall

end ProcessStubs
