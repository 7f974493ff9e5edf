import Graft.Command.Run

/-!
# What a command looks at

A command looks at few places of the file tree, and the options file says which. So a
tree with these places is enough to run it: first the options file, and the document
that is previewed, then the manifest, the component and the directory of the documents,
where the options can be read.
-/

namespace Graft.Command

/-- Where a command works. -/
def Action.place : Action → Place
  | .inject place _ _ | .preview place _ | .pages place | .check place | .info place => place

/-- The paths a command looks at before it knows the options. -/
def Action.firstPaths (action : Action) (here : List Text) : List Path :=
  let config := configOf action.place (action.place.root.resolve here)
  match action with
  | .preview _ file => [config, file]
  | _ => [config]

/-- The file the options name as the component. -/
def componentFile? (options : Options) (root : Path) : Option Path :=
  match Component.resolveAlias options.componentPath options.aliases with
  | .ok (.str t) => (Component.withSuffix t (root.appendText t)).toOption
  | _ => none

/-- The directory of the documents. -/
def sourceDirectory? (options : Options) (root : Path) : Option Path :=
  (pathFrom root options.sourceDir).toOption

/-- The paths a command looks at because of the options. -/
def optionPaths (options : Options) (root : Path) : List Path :=
  [(pathFrom root options.pagesJson).toOption, componentFile? options root,
    sourceDirectory? options root].filterMap id

/-- The options of a command, read from a tree that has the options file. -/
def Action.options? (action : Action) (disk : Disk) : Option Options :=
  (Options.load disk (configOf action.place (action.place.root.resolve disk.here))).toOption

end Graft.Command
