/-! What can be completed: entities, selector aliases, parameters and members. -/

namespace Datapack.Selector

/-- The entities a selector head can name. -/
def entities : List String :=
  [
   "item", "xp_orb", "area_effect_cloud", "elder_guardian", "wither_skeleton", "stray", "egg",
   "leash_knot", "painting", "arrow", "snowball", "fireball", "small_fireball", "ender_pearl",
   "eye_of_ender_signal", "potion", "xp_bottle", "item_frame", "wither_skull", "tnt",
   "falling_block", "fireworks_rocket", "husk", "spectral_arrow", "shulker_bullet",
   "dragon_fireball", "zombie_villager", "skeleton_horse", "zombie_horse", "armor_stand",
   "donkey", "mule", "evocation_fangs", "evocation_illager", "vex", "vindication_illager",
   "illusion_illager", "commandblock_minecart", "boat", "minecart", "chest_minecart",
   "furnace_minecart", "tnt_minecart", "hopper_minecart", "spawner_minecart", "creeper",
   "skeleton", "spider", "giant", "zombie", "slime", "ghast", "zombie_pigman", "enderman",
   "cave_spider", "silverfish", "blaze", "magma_cube", "ender_dragon", "wither", "bat", "witch",
   "endermite", "guardian", "shulker", "pig", "sheep", "cow", "chicken", "squid", "wolf",
   "mooshroom", "snowman", "ocelot", "villager_golem", "horse", "rabbit", "polar_bear", "llama",
   "llama_spit", "parrot", "villager", "ender_crystal"
  ]

/-- Plurals that do not just add an `s`, by the plural that would. -/
def pluralOverrides : List (String × String) :=
  [("endermans", "endermen"),
   ("evocation fangss", "evocation fangs"),
   ("sheeps", "sheep"),
   ("vexs", "vexes"),
   ("snowmans", "snowmen"),
   ("wolfs", "wolves"),
   ("silverfishs", "silverfishes"),
   ("witchs", "witches"),
   ("tnts", "tnt"),
   ("rabbits", "rabbi")]

/-- A one-letter head and the longer names it stands for. -/
structure Alias where
  name : String
  doc : String
  longNames : List String
deriving DecidableEq, Repr

def aliases : List Alias :=
  [⟨"e", "Targets all entities", ["all", "any", "entity", "entities"]⟩,
   ⟨"a", "Targets all players", ["players", "everyone", "allplayers"]⟩,
   ⟨"p", "Targets the nearest player", ["closest", "nearest", "player"]⟩,
   ⟨"r", "Targets a random player (or entity if provided [type=?])", ["random"]⟩,
   ⟨"s", "Targets the executing entity", ["this", "self", "me"]⟩]

/-- A name and what it means. -/
structure Described where
  name : String
  doc : String
deriving DecidableEq, Repr

def params : List Described :=
  [⟨"gamemode",
      "Selects players set to the specified gamemode. Can be an index (like until 1.12) or " ++
      "gamemode name"⟩,
   ⟨"tag",
      "Selects entities with the specified tag"⟩,
   ⟨"tags",
      "Selects entities with the specified tag list inside [ ]"⟩]

/-- A member of a selector. `usage` is the signature of a call; a member without one shows no
signature help. -/
structure Member where
  name : String
  doc : String
  snippet : Option String := none
  plainText : Option String := none
  usage : Option String := none
  params : List Described := []
deriving DecidableEq, Repr

def members : List Member :=
  [{ name := "effect"
     doc := "Adds / removes an effect from the entity"
     snippet := some "effect($1) $0"
     usage := some "effect(effect, seconds, amplifier, hideParticles)"
     params := [⟨"effect", "Effect id, or clear to remove every effect"⟩,
       ⟨"seconds", "Duration in seconds"⟩,
       ⟨"amplifier", "Effect level minus one"⟩,
       ⟨"hideParticles", "true to hide the effect particles"⟩] },
   { name := "grant"
     doc := "Grants a player a specified advancement, a range of advancements or all."
     snippet := some "grant($\x7b1|only,from,until,all| $0\x7d)"
     usage := some "grant(mode advancement)"
     params := [⟨"mode", "One of only, from, until or all"⟩,
       ⟨"advancement", "Advancement id (omitted when mode is all)"⟩] },
   { name := "revoke"
     doc := "Removes from a player a specified advancement, a range of advancements or all."
     snippet := some "revoke($\x7b1|only,from,until,all| $0\x7d)"
     usage := some "revoke(mode advancement)"
     params := [⟨"mode", "One of only, from, until or all"⟩,
       ⟨"advancement", "Advancement id (omitted when mode is all)"⟩] },
   { name := "clear"
     doc := "Clears from the player inventory the spcified item"
     snippet := some "clear($0)"
     usage := some "clear(item, count)"
     params := [⟨"item", "Item id to remove"⟩,
       ⟨"count", "Maximum number of items to remove"⟩] },
   { name := "title"
     doc := "Displays a title for a player"
     snippet := some "title($0)"
     usage := some "title(text)"
     params := [⟨"text", "JSON text component or string"⟩] },
   { name := "subtitle"
     doc := "Displays a sub title for a player"
     snippet := some "subtitle($0)"
     usage := some "subtitle(text)"
     params := [⟨"text", "JSON text component or string"⟩] },
   { name := "action"
     doc := "Displays a message above the player's hotbar"
     snippet := some "action($0)"
     usage := some "action(text)"
     params := [⟨"text", "JSON text component or string"⟩] },
   { name := "titleTimes"
     doc := "Changes the title duration parameters (fade in, stay, fade out)"
     snippet := some "titleTimes($\x7b1:10\x7d,$\x7b2:70\x7d,$\x7b3:20\x7d)"
     usage := some "titleTimes(fadeIn, stay, fadeOut)"
     params := [⟨"fadeIn", "Fade in time in ticks"⟩,
       ⟨"stay", "Display time in ticks"⟩,
       ⟨"fadeOut", "Fade out time in ticks"⟩] },
   { name := "nbt"
     doc := "Modifies or queries the entity's nbt data" },
   { name := "gamemode"
     doc := "Changes the player's gamemode"
     snippet := some "gamemode = $\x7b1|survival,creative,spectator,adventure|\x7d" },
   { name := "enchant"
     doc := "Adds an enchantment to the tool the player is holding"
     snippet := some ("enchant($\x7b1|aqua_affinity,bane_of_arthropods,blast_protection,channeling," ++
      "binding_curse,vanishing_curse,depth_strider,efficiency,feather_falling,fire_aspect," ++
      "fire_protection,flame,fortune,frost_walker,impaling,infinity,knockback,looting,loyalty," ++
      "luck_of_the_sea,lure,mending,multishot,piercing,power,projectile_protection,protection," ++
      "punch,quick_charge,respiration,riptide,sharpness,silk_touch,smite,sweeping,thorns," ++
      "unbreaking|\x7d)")
     usage := some "enchant(enchantment, level)"
     params := [⟨"enchantment", "Enchantment id"⟩,
       ⟨"level", "Enchantment level"⟩] },
   { name := "tag"
     doc := "Adds a tag to an entity, to be targeted in a selector using @e[tag=<tag>]"
     snippet := some "tag($0)"
     usage := some "tag(name)"
     params := [⟨"name", "Tag to add"⟩] },
   { name := "untag"
     doc := "Removes a tag from an entity"
     snippet := some "untag($0)"
     usage := some "untag(name)"
     params := [⟨"name", "Tag to remove"⟩] },
   { name := "xp"
     doc := "Adds, changes or queries the player's experience" },
   { name := "spawn"
     doc := "Sets the player's spawn point" },
   { name := "kill"
     doc := "Removes the entity/s selected by this selector."
     plainText := some "kill()"
     usage := some "kill()" },
   { name := "tp"
     doc := "Teleports the entity to the specified location"
     snippet := some "tp($0)"
     usage := some "tp(destination, facing)"
     params := [⟨"destination", "Target selector or x y z coordinates"⟩,
       ⟨"facing", "Optional rotation or facing target"⟩] },
   { name := "tellraw"
     doc := "Sends a formatted JSON message to the player"
     snippet := some "tellraw($0)"
     usage := some "tellraw(message)"
     params := [⟨"message", "JSON text component"⟩] },
   { name := "give"
     doc := "Inserts an item to a player's inventory"
     snippet := some "give($0)"
     usage := some "give(item, count)"
     params := [⟨"item", "Item id, optionally with NBT"⟩,
       ⟨"count", "Number of items to give"⟩] }]

def findMember? (name : String) : Option Member := members.find? (·.name == name)

end Datapack.Selector
