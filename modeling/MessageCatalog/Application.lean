import MessageCatalog.Registry.Query
import MessageCatalog.Registry.Register

/-!
# The process-wide registry

An application has one registry that every part of it shares, and it may create others. The functions that name no registry work on the shared one.
-/

namespace MessageCatalog

structure Application where
  shared : Registry
  created : Nat

namespace Application

/-- An application that has just begun: the shared registry is empty. -/
def start : Application := ⟨Registry.create 0 "global", 1⟩

def create (app : Application) (label : String) : Registry × Application :=
  (Registry.create app.created label, { app with created := app.created + 1 })

/-- The label of a registry that was given none. -/
def defaultLabel : String := "default"

def register (table : TypeTable) (kind : MessageKind) (type : NativeType) (identifier : String) (app : Application) :
    Except RegisterError Descriptor × Application :=
  let (result, shared) := app.shared.register table kind type identifier
  (result, { app with shared })

def findByType (type : NativeType) (app : Application) : Option Descriptor := app.shared.byType type

def findByIdentifier (identifier : String) (app : Application) : Except IdentifierError (Option Descriptor) :=
  app.shared.byIdentifier identifier

def all (app : Application) : SnapshotGuard := app.shared.guard

end Application

end MessageCatalog
