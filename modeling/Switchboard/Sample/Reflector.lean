import Switchboard.Native.Library

/-!
# A module that gives back its call

The module answers with the service, the function and the arguments that it is called with. Two
functions fail instead.
-/
namespace Switchboard.Sample

def reflector : Native.Module Unit where
  call _ service function args :=
    let outcome :=
      if function = "explode" then .error (.remote "explode always fails")
      else if function = "drop" then .error (.transport "link down")
      else
        .ok (.ofEntries
          [("service", .string service), ("function", .string function), ("args", .array args)])
    (outcome, ())

end Switchboard.Sample
