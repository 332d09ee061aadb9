/-
  TagAudit.Catalog — which types of resources carry tags, and in which attribute.

  A scan asks both of a `TagLookup`. To a catalog types are known by their names: a prefix tells
  the provider, further marks tell the types that only attach or configure other resources.
  Single types can be set otherwise.
-/

import TagAudit.OrderedMap
import TagAudit.Text.Blank

namespace TagAudit

inductive Provider where
  | aws
  | gcp
  | azure
  deriving DecidableEq, Repr, Inhabited

namespace Provider

def all : List Provider := [.aws, .gcp, .azure]

def name : Provider → String
  | .aws => "aws"
  | .gcp => "gcp"
  | .azure => "azure"

def ofName? (s : String) : Option Provider := all.find? (·.name == s)

/-- What the types of a provider's resources start with. -/
def prefixes : Provider → List String
  | .aws => ["aws_"]
  | .gcp => ["google_"]
  | .azure => ["azurerm_", "azurestack_", "azapi_"]

def ofType? (type : String) : Option Provider :=
  all.find? fun p => p.prefixes.any fun s => Text.startsWith type.toList s.toList

end Provider

structure TagLookup where
  /-- Whether resources of a type carry tags with a provider. -/
  isTaggable : String → Provider → Bool
  /-- The attribute that holds the tags of a type of resource, or the name of the blocks that
      hold one tag each. -/
  tagAttribute : String → String

/-- Types that are set to carry tags or not. -/
abbrev Catalog := OrderedMap Bool

namespace Catalog

/-- What the types of untagged resources end with. -/
def awsUntagged : List String :=
  ["_attachment", "_association", "_bucket_policy", "_bucket_acl", "_bucket_versioning",
   "_bucket_public_access_block", "_bucket_server_side_encryption_configuration",
   "_bucket_lifecycle_configuration", "_bucket_notification", "_role_policy", "_security_group_rule",
   "_route", "_record", "_iam_user_policy", "_iam_group_policy", "_iam_group_membership"]

/-- What occurs in the types of unlabelled resources. -/
def gcpUnlabelled : List String :=
  ["_iam_policy", "_iam_binding", "_iam_member", "_access_control", "_peering", "_association",
   "_attachment", "_policy", "_rule", "_config", "_key", "_version", "_member", "_binding",
   "_metadata", "project_service", "organization_policy"]

/-- Whether the name of a type speaks for tags. -/
def namedTaggable (type : String) : Provider → Bool
  | .aws => !awsUntagged.any fun s => Text.startsWith type.toList.reverse s.toList.reverse
  | .gcp => !gcpUnlabelled.any fun s => Text.contains type.toList s.toList
  | .azure => true

def isTaggable (c : Catalog) (type : String) (p : Provider) : Bool :=
  Provider.ofType? type == some p && (c.get? type).getD (namedTaggable type p)

/-- The attribute, or the name of the blocks, that the tags of a type of resource are in. -/
def tagAttribute (type : String) : String :=
  if type = "aws_autoscaling_group" then "tag"
  else if Text.startsWith type.toList "google_".toList then "labels"
  else "tags"

def tagLookup (c : Catalog) : TagLookup := ⟨c.isTaggable, tagAttribute⟩

instance : Coe Catalog TagLookup := ⟨tagLookup⟩

/-- The catalog in which no type is set otherwise than its name says. -/
def byName : Catalog := OrderedMap.empty

end Catalog
end TagAudit
