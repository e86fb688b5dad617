import SchemaSheet.Text.Basic

/-! The environment: the values of names. -/

namespace SchemaSheet

abbrev Environment := List (Text × Text)

namespace Environment

def value? (env : Environment) (name : Text) : Option Text := env.lookup name

/-- The environment with a value for a name that has none. -/
def extended (env : Environment) (name value : Text) : Environment :=
  if (env.value? name).isSome then env else env ++ [(name, value)]

end Environment

end SchemaSheet
