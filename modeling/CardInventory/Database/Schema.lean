/-!
# The schema of the database

The schema grows by migrations, each of which is a script with a version. The
scripts are kept with the program, oldest first.
-/

namespace CardInventory.Database

/-- A change of the schema. -/
structure Migration where
  version : Nat
  description : String
  script : String
  deriving DecidableEq, Repr

namespace Migration

/-- The lines of the script that creates the tables of the inventory. -/
def initialLines : List String :=
  ["-- Users own binders and decks",
    "CREATE TABLE users (",
    "    id UUID PRIMARY KEY,",
    "    username TEXT NOT NULL,",
    "    email TEXT,",
    "    created_at TIMESTAMPTZ NOT NULL DEFAULT NOW(),",
    "    CONSTRAINT users_username_key UNIQUE (username),",
    "    CONSTRAINT users_username_not_blank CHECK (btrim(username) <> '')",
    ");",
    "",
    "-- Card catalog: one row per printing, faces in a child table",
    "CREATE TABLE cards (",
    "    id UUID PRIMARY KEY,",
    "    name TEXT NOT NULL,",
    "    set_code TEXT,",
    "    collector_number TEXT,",
    "    rarity TEXT,",
    "    layout TEXT,",
    "    created_at TIMESTAMPTZ NOT NULL DEFAULT NOW()",
    ");",
    "",
    "CREATE TABLE card_faces (",
    "    card_id UUID NOT NULL REFERENCES cards(id) ON DELETE CASCADE,",
    "    face_index INTEGER NOT NULL,",
    "    name TEXT NOT NULL,",
    "    mana_cost TEXT,",
    "    cmc DOUBLE PRECISION,",
    "    type_line TEXT,",
    "    oracle_text TEXT,",
    "    colors TEXT[] NOT NULL DEFAULT '\x7b\x7d',",
    "    power TEXT,",
    "    toughness TEXT,",
    "    image_url TEXT,",
    "    PRIMARY KEY (card_id, face_index)",
    ");",
    "",
    "CREATE INDEX idx_cards_name_lower ON cards (lower(name));",
    "",
    "-- Unallocated inventory. Rows at zero are deleted, never stored.",
    "CREATE TABLE binder_entries (",
    "    user_id UUID NOT NULL REFERENCES users(id),",
    "    card_id UUID NOT NULL REFERENCES cards(id),",
    "    quantity INTEGER NOT NULL,",
    "    created_at TIMESTAMPTZ NOT NULL DEFAULT NOW(),",
    "    updated_at TIMESTAMPTZ NOT NULL DEFAULT NOW(),",
    "    PRIMARY KEY (user_id, card_id),",
    "    CONSTRAINT binder_entries_quantity_positive CHECK (quantity > 0)",
    ");",
    "",
    "CREATE TABLE decks (",
    "    id UUID PRIMARY KEY,",
    "    owner_id UUID NOT NULL REFERENCES users(id),",
    "    name TEXT NOT NULL,",
    "    format TEXT NOT NULL,",
    "    -- NULL means unlimited",
    "    capacity INTEGER,",
    "    notes TEXT,",
    "    created_at TIMESTAMPTZ NOT NULL DEFAULT NOW(),",
    "    updated_at TIMESTAMPTZ NOT NULL DEFAULT NOW(),",
    "    CONSTRAINT decks_name_not_blank CHECK (btrim(name) <> ''),",
    "    CONSTRAINT decks_format_not_blank CHECK (btrim(format) <> ''),",
    "    CONSTRAINT decks_capacity_positive CHECK (capacity IS NULL OR capacity > 0)",
    ");",
    "",
    "CREATE INDEX idx_decks_owner_id ON decks (owner_id);",
    "",
    "CREATE TABLE deck_entries (",
    "    deck_id UUID NOT NULL REFERENCES decks(id) ON DELETE CASCADE,",
    "    card_id UUID NOT NULL REFERENCES cards(id),",
    "    zone TEXT NOT NULL,",
    "    quantity INTEGER NOT NULL,",
    "    created_at TIMESTAMPTZ NOT NULL DEFAULT NOW(),",
    "    updated_at TIMESTAMPTZ NOT NULL DEFAULT NOW(),",
    "    PRIMARY KEY (deck_id, card_id, zone),",
    "    CONSTRAINT deck_entries_zone_valid CHECK (zone IN ('main', 'sideboard')),",
    "    CONSTRAINT deck_entries_quantity_positive CHECK (quantity > 0)",
    ");"]

/-- The tables of the inventory. -/
def initial : Migration where
  version := 20250601000000
  description := "initial schema"
  script := "\n".intercalate initialLines

/-- The migrations, oldest first. -/
def all : List Migration :=
  [initial]

end Migration

end CardInventory.Database
