/-!
# Script direction and joining tables

The properties of characters that decide whether a label of a domain name may be shown: direction,
joining behaviour, and being a combining mark. The data is that of the Unicode character database.

## Main definitions

* `Jukebox.Url.directionData`: the bidirectional class of the characters from each point on.
* `Jukebox.Url.joiningData`: the joining type of the characters from each point on.
* `Jukebox.Url.markData`: `M` for the combining marks from each point on, `N` for all else.

## Design notes

The points are written as hexadecimal distances from the point before. Bidirectional classes that no rule
mentions are written `X`.
-/

namespace Jukebox.Url

/-- The bidirectional class of the characters from each point on. -/
def directionData : List String := [
  "0:BN 9:X 5:BN e:X 5:ON 2:ET 3:ON 5:ES 1:CS 1:ES 1:CS 2:EN a:CS 1:ON 6:L 1a:ON 6:L 1a:ON 4:BN",
  "6:X 1:BN 1a:CS 1:ON 1:ET 4:ON 4:L 1:ON 2:BN 1:ON 2:ET 2:EN 2:ON 1:L 1:ON 3:EN 1:L 1:ON 5:L",
  "17:ON 1:L 1f:ON 1:L 1c1:ON 2:L 7:ON e:L 2:ON e:L 5:ON 9:L 1:ON 11:NSM 70:L 4:ON 2:L 8:ON 1:L",
  "5:ON 2:L 1:ON 1:L 6e:ON 1:L 8c:NSM 7:L 100:ON 1:L 2:ON 2:ET 1:R 1:NSM 2d:R 1:NSM 1:R 1:NSM",
  "2:R 1:NSM 2:R 1:NSM 1:R 38:AN 6:ON 2:AL 1:ET 2:AL 1:CS 1:AL 1:ON 2:NSM b:AL 30:NSM 15:AN",
  "a:ET 1:AN 2:AL 3:NSM 1:AL 65:NSM 7:AN 1:ON 1:NSM 6:AL 2:NSM 2:ON 1:NSM 4:AL 2:EN a:AL 17:NSM",
  "1:AL 1e:NSM 1b:AL 5b:NSM b:AL f:R 2b:NSM 9:R 2:ON 4:R 3:NSM 1:R 18:NSM 4:R 1:NSM 9:R 1:NSM",
  "3:R 1:NSM 5:R 2b:NSM 3:R 4:AL 30:AN 2:AL 6:NSM 8:AL 2a:NSM 18:AN 1:NSM 20:L 37:NSM 1:L 1:NSM",
  "1:L 4:NSM 8:L 4:NSM 1:L 3:NSM 7:L a:NSM 2:L 1d:NSM 1:L 3a:NSM 1:L 4:NSM 4:L 8:NSM 1:L 14:NSM",
  "2:L e:ET 2:L 7:ET 1:L 2:NSM 1:L 2:NSM 2:L 39:NSM 1:L 4:NSM 2:L 4:NSM 2:L 2:NSM 3:L 3:NSM 1:L",
  "1e:NSM 2:L 3:NSM 1:L b:NSM 2:L 39:NSM 1:L 4:NSM 5:L 1:NSM 2:L 4:NSM 1:L 14:NSM 2:L d:ET 1:L",
  "8:NSM 6:L 1:NSM 1:L 3a:NSM 1:L 2:NSM 1:L 1:NSM 4:L 8:NSM 1:L 7:NSM 2:L b:NSM 2:L 1e:NSM 1:L",
  "3d:NSM 1:L c:NSM 1:L 25:ON 6:ET 1:ON 1:L 5:NSM 1:L 3:NSM 1:L 37:NSM 1:L 1:NSM 3:L 5:NSM 3:L",
  "1:NSM 4:L 7:NSM 2:L b:NSM 2:L 14:ON 7:L 2:NSM 1:L 3a:NSM 1:L f:NSM 2:L 14:NSM 2:L 1c:NSM 2:L",
  "39:NSM 2:L 4:NSM 4:L 8:NSM 1:L 14:NSM 2:L 1d:NSM 1:L 48:NSM 1:L 7:NSM 3:L 1:NSM 1:L 5a:NSM",
  "1:L 2:NSM 7:L 4:ET 1:L 7:NSM 8:L 62:NSM 1:L 2:NSM 9:L b:NSM 7:L 49:NSM 2:L 1b:NSM 1:L 1:NSM",
  "1:L 1:NSM 1:ON 4:L 33:NSM e:L 1:NSM 5:L 1:NSM 2:L 5:NSM b:L 1:NSM 24:L 9:NSM 1:L 66:NSM 4:L",
  "1:NSM 6:L 1:NSM 2:L 2:NSM 2:L 19:NSM 2:L 4:NSM 3:L 10:NSM 4:L d:NSM 1:L 2:NSM 2:L 6:NSM 1:L",
  "f:NSM 1:L 2bf:NSM 3:L 30:ON a:L 66:ON 1:L 27f:X 1:L 1a:ON 2:L 75:NSM 3:L 1d:NSM 2:L 1e:NSM",
  "2:L 1e:NSM 2:L 40:NSM 2:L 1:NSM 7:L 8:NSM 1:L 2:NSM b:L 7:ET 1:L 1:NSM 1:L 12:ON a:L 6:ON",
  "b:NSM 3:BN 1:NSM 1:L 75:NSM 2:L 22:NSM 1:L 76:NSM 3:L 4:NSM 2:L 9:NSM 1:L 6:NSM 3:L 4:ON 1:L",
  "3:ON 2:L 98:ON 22:L 17:NSM 2:L 2:NSM 1:L 3a:NSM 1:L 1:NSM 7:L 1:NSM 1:L 1:NSM 1:L 2:NSM 8:L",
  "6:NSM a:L 2:NSM 1:L 30:NSM 1f:L 31:NSM 4:L 30:NSM 1:L 1:NSM 5:L 1:NSM 1:L 5:NSM 1:L 28:NSM",
  "9:L c:NSM 2:L 20:NSM 4:L 2:NSM 2:L 1:NSM 3:L 38:NSM 1:L 1:NSM 2:L 3:NSM 1:L 1:NSM 3:L 3a:NSM",
  "8:L 2:NSM 2:L 98:NSM 3:L 1:NSM d:L 1:NSM 7:L 4:NSM 1:L 6:NSM 1:L 3:NSM 2:L c6:NSM 40:L",
  "1bd:ON 1:L 1:ON 3:L b:ON 3:L d:ON 3:L d:ON 3:L d:ON 2:L 1:X b:BN 3:L 1:R 1:ON 18:X 7:CS 1:ET",
  "5:ON f:CS 1:ON 1a:X 1:BN 6:X 4:BN 6:EN 1:L 3:EN 6:ES 2:ON 3:L 1:EN a:ES 2:ON 3:L 11:ET",
  "30:NSM 21:L f:ON 2:L 1:ON 4:L 1:ON 2:L a:ON 1:L 1:ON 3:L 5:ON 6:L 1:ON 1:L 1:ON 1:L 1:ON 1:L",
  "4:ET 1:L b:ON 2:L 4:ON 5:L 5:ON 4:L 2:ON 10:L 29:ON 3:L 4:ON 82:ES 1:ET 1:ON 122:L 45:ON",
  "1a:L 1:ON 91:L 19:ON b:L 15:ON 28:EN 14:L 4e:ON 1c2:L 1:ON 153:L 100:ON 274:L 2:ON 20:L 1:ON",
  "69:L e5:ON 6:L 4:NSM 3:L 7:ON 7:L 7f:NSM 1:L 60:NSM 20:ON 5e:L 22:ON 1a:L 1:ON 59:L c:ON",
  "d6:L 1a:ON c:L 4:X 1:ON 4:L 3:ON 19:L 9:NSM 4:L 2:ON 1:L 5:ON 2:L 5:ON 3:L 59:NSM 2:ON 2:L",
  "3:ON 1:L 5a:ON 1:L c4:ON 24:L 39:ON 2:L 31:ON 10:L 1c:ON 3:L 32:ON f:L c:ON 4:L a7:ON 4:L",
  "63:ON 2:L 1f:ON 1:L 19c0:ON 40:L 5690:ON 37:L 146:ON 3:L 5f:NSM 4:ON 1:NSM a:ON 2:L 1e:NSM",
  "2:L 50:NSM 2:L e:ON 22:L 66:ON 1:L 79:NSM 1:L 3:NSM 1:L 4:NSM 1:L 19:NSM 2:L 1:ON 4:NSM 1:L",
  "b:ET 2:L 3a:ON 4:L 4c:NSM 2:L 1a:NSM 12:L d:NSM 1:L 26:NSM 8:L 19:NSM b:L 2e:NSM 3:L 30:NSM",
  "1:L 2:NSM 4:L 2:NSM 2:L 27:NSM 1:L 43:NSM 6:L 2:NSM 2:L 2:NSM 2:L c:NSM 1:L 8:NSM 1:L 2f:NSM",
  "1:L 33:NSM 1:L 1:NSM 3:L 2:NSM 2:L 5:NSM 2:L 1:NSM 1:L 2a:NSM 2:L 8:NSM 1:L 73:ON 2:L 79:NSM",
  "1:L 2:NSM 1:L 4:NSM 1:L 4f2f:R 1:NSM 1:R a:ES 1:R 26:AL 1ee:ON 12:AL 7f:ON 1:BN 20:AL d:ON",
  "3:NSM 10:ON a:L 6:NSM 10:ON 20:CS 1:ON 1:CS 1:L 1:ON 1:CS 1:ON 9:ET 1:ON 2:ES 2:ON 3:L 1:ON",
  "1:ET 2:ON 1:L 4:AL 8f:BN 1:L 1:ON 2:ET 3:ON 5:ES 1:CS 1:ES 1:CS 2:EN a:CS 1:ON 6:L 1a:ON 6:L",
  "1a:ON b:L 7a:ET 2:ON 3:ET 2:L 1:ON 7:L 1:BN 9:ON 5:BN 2:L 101:ON 1:L 3e:ON 4d:L 3:ON d:L",
  "3:ON 1:L 5c:NSM 1:L e2:NSM 1:EN 1b:L 7a:NSM 5:L 485:R 11f:ON 1:R e1:NSM 3:R 1:NSM 2:R 5:NSM",
  "4:R 28:NSM 3:R 4:NSM 1:R a5:NSM 2:R 52:ON 7:R 1c0:AL 24:NSM 4:AL 8:AN a:AL 6:R 120:AN 1f:R",
  "2c:NSM 2:R 13:AL 3d:NSM 3:R 30:AL 16:NSM b:AL 1f:R 12:NSM 4:R 7a:L 1:NSM 1:L 36:NSM f:L b:ON",
  "14:L a:NSM 1:L 2:NSM 2:L a:NSM 3:L 31:NSM 4:L 2:NSM 2:L 7:NSM 1:L 3d:NSM 3:L 24:NSM 5:L",
  "1:NSM 8:L 3e:NSM 1:L c:NSM 2:L 34:NSM 9:L a:NSM 4:L 2:NSM 1:L 5f:NSM 3:L 2:NSM 1:L 1:NSM 2:L",
  "6:NSM 1:L 2:NSM 1:L 9d:NSM 1:L 3:NSM 8:L 15:NSM 2:L 39:NSM 2:L 3:NSM 1:L 25:NSM 7:L 3:NSM",
  "5:L c3:NSM 8:L 2:NSM 3:L 1:NSM 1:L 17:NSM 1:L 54:NSM 6:L 1:NSM 1:L 4:NSM 2:L 1:NSM 2:L",
  "ee:NSM 4:L 6:NSM 2:L 1:NSM 2:L 1b:NSM 2:L 55:NSM 8:L 2:NSM 1:L 1:NSM 2:L 1f:ON d:L 3e:NSM",
  "1:L 1:NSM 1:L 2:NSM 6:L 1:NSM 1:L 65:NSM 3:L 2:NSM 4:L 1:NSM 5:L 103:NSM 9:L 1:NSM 2:L",
  "100:NSM 2:L 1:NSM 1:L 4:NSM 1:L 90:NSM 4:L 2:NSM 2:L 4:NSM 1:L 20:NSM 6:L 2:NSM 2:L 28:NSM",
  "6:L 2:NSM 4:L 8:NSM 1:L 9:NSM 6:L 2:NSM 3:L 2e:NSM d:L 1:NSM 2:L 196:NSM 7:L 1:NSM 6:L",
  "54:NSM 16:L 2:NSM 7:L 1:NSM 2:L 1:NSM 2:L 7a:NSM 6:L 3:NSM 1:L 1:NSM 2:L 1:NSM 7:L 1:NSM 1:L",
  "48:NSM 2:L 3:NSM 1:L 1:NSM 1:L 15b:NSM 2:L b:NSM 2:L 34:NSM 5:L 5:NSM 1:L 1:NSM 1:L 92:ON",
  "8:ET 4:ON 11:L 144e:NSM 1:L 6:NSM f:L 369a:NSM 5:L 3b:NSM 7:L 418:NSM 1:L 3f:NSM 4:L 4f:ON",
  "1:L 1:NSM 1:L 4cb8:NSM 2:L 1:BN 4:L 125c:NSM 2e:L 2:NSM 17:L 220:NSM 3:L 9:BN 8:NSM 8:L",
  "2:NSM 7:L 1e:NSM 4:L 3b:ON 2:L 15:ON 42:NSM 3:ON 1:L ba:ON 57:L 384:ON 1:L 39:ON 1:L 39:ON",
  "1:L 39:ON 1:L 39:ON 1:L a:EN 32:L 200:NSM 37:L 4:NSM 32:L 8:NSM 1:L e:NSM 1:L 16:NSM 5:L",
  "1:NSM f:L 550:NSM 7:L 1:NSM 11:L 2:NSM 7:L 1:NSM 2:L 1:NSM 5:L 64:NSM 1:L a0:NSM 7:L 177:NSM",
  "1:L 3d:NSM 4:L f:ET 1:L 1ec:NSM 4:L 310:R d0:NSM 7:R 6d:NSM 7:R 325:AL 50:R 40:AL 50:R b0:AL",
  "f0:ON 2:AL e:R 100:ON 2c:L 4:ON 64:L c:ON f:L 2:ON f:L 1:ON f:L 1:ON 25:L a:EN b:ON 5:L",
  "1f:ON 1:L 3a:ON 6:L 3d:ON 1:L b2:ON 6:L 9a:ON 3d8:L 4:ON 11:L 3:ON d:L 3:ON 77:L 4:ON 5f:L",
  "6:ON c:L 4:ON 1:L f:ON c:L 4:ON 38:L 8:ON a:L 6:ON 28:L 8:ON 1e:L 2:ON 2:L 4e:ON 154:L c:ON",
  "e:L 2:ON d:L 3:ON 9:L 7:ON 2e:L 1:ON 7:L 8:ON e:L 4:ON 9:L 7:ON 9:L 7:ON 93:L 1:ON 37:L",
  "25:EN a:L 404:BN 2:L fffe:BN 2:L fffe:BN 2:L fffe:BN 2:L fffe:BN 2:L fffe:BN 2:L fffe:BN 2:L",
  "fffe:BN 2:L fffe:BN 2:L fffe:BN 2:L fffe:BN 2:L fffe:BN 2:L fffe:BN 102:NSM f0:BN e10:L",
  "effe:BN 2:L fffe:BN 2:L fffe:BN 2:L"]

/-- The joining type of the characters from each point on. -/
def joiningData : List String := [
  "0:U ad:T 1:U 252:T 70:U 113:T 7:U 107:T 2d:U 1:T 1:U 1:T 2:U 1:T 2:U 1:T 1:U 48:T b:U 1:T",
  "1:U 3:D 1:U 1:R 4:D 1:R 1:D 1:R 1:D 5:R 4:D d:C 1:D 7:R 1:D 2:T 15:U e:D 2:T 1:R 3:U 1:R 3:D",
  "10:R 12:D 26:R 1:D 2:R 9:D 1:R 1:D 1:R 1:D 2:R 2:U 1:R 1:T 7:U 2:T 6:U 2:T 2:U 1:T 4:R 2:U",
  "a:D 3:U 2:D 1:U f:T 1:R 1:T 1:D 3:R 5:D 4:R 1:D 9:R 1:D 1:R 1:D 1:R 1:D 2:R 1:T 1b:U 2:R 1:D",
  "b:R 3:D f:R 2:D 4:R 1:D 1:R 2:D 3:R 2:D 6:U 26:T b:U 19:D 21:T 9:U 6:C 1:U 2:T 1:U 18:T 4:U",
  "1:T 9:U 1:T 3:U 1:T 5:U 12:R 1:D 5:R 2:D 1:R 1:D a:R 1:D 1:R 3:T 3:U 4:D 1:U 1:D 4:U 1:R 1:D",
  "1:R 2:U 5:R 13:C 3:D 1:U 2:D 5:R 1:U 9:T 8:D a:R 3:U 1:R 1:D 2:R 2:D 6:R 1:D f:U 1:T 18:U",
  "1:T 20:U 37:T 1:U 1:T 1:U 4:T 8:U 4:T 1:U 3:T 7:U a:T 2:U 1d:T 1:U 3a:T 1:U 4:T 4:U 8:T 1:U",
  "14:T 2:U 1a:T 1:U 2:T 2:U 39:T 1:U 4:T 2:U 4:T 2:U 2:T 3:U 3:T 1:U 1e:T 2:U 3:T 1:U b:T 2:U",
  "39:T 1:U 4:T 5:U 1:T 2:U 4:T 1:U 14:T 2:U 16:T 6:U 1:T 1:U 3a:T 1:U 2:T 1:U 1:T 4:U 8:T 1:U",
  "7:T 2:U b:T 2:U 1e:T 1:U 3d:T 1:U c:T 1:U 32:T 1:U 3:T 1:U 37:T 1:U 1:T 3:U 5:T 3:U 1:T 4:U",
  "7:T 2:U b:T 2:U 1d:T 1:U 3a:T 1:U 2:T 1:U 6:T 1:U 5:T 2:U 14:T 2:U 1c:T 2:U 39:T 2:U 4:T 4:U",
  "8:T 1:U 14:T 2:U 1d:T 1:U 48:T 1:U 7:T 3:U 1:T 1:U 5a:T 1:U 2:T 7:U c:T 8:U 62:T 1:U 2:T 9:U",
  "b:T 7:U 49:T 2:U 1b:T 1:U 1:T 1:U 1:T 1:U 37:T e:U 1:T 5:U 1:T 2:U 5:T b:U 1:T 24:U 9:T 1:U",
  "66:T 4:U 1:T 6:U 1:T 2:U 2:T 2:U 19:T 2:U 4:T 3:U 10:T 4:U d:T 1:U 2:T 2:U 6:T 1:U f:T 1:U",
  "2bf:T 3:U 3b2:T 3:U 1d:T 2:U 1e:T 2:U 1e:T 2:U 40:T 2:U 1:T 7:U 8:T 1:U 2:T b:U 9:T 1:U 29:D",
  "1:U 2:C 1:T 3:U 1:T 1:U 10:D 59:U c:T 2:D 22:T 1:D 1:U 75:T 3:U 4:T 2:U 9:T 1:U 6:T 3:U db:T",
  "2:U 2:T 1:U 3a:T 1:U 1:T 7:U 1:T 1:U 1:T 1:U 2:T 8:U 6:T a:U 2:T 1:U 30:T 1f:U 31:T 4:U 30:T",
  "1:U 1:T 5:U 1:T 1:U 5:T 1:U 28:T 9:U c:T 2:U 20:T 4:U 2:T 2:U 1:T 3:U 38:T 1:U 1:T 2:U 3:T",
  "1:U 1:T 3:U 3a:T 8:U 2:T 2:U 98:T 3:U 1:T d:U 1:T 7:U 4:T 1:U 6:T 1:U 3:T 2:U c6:T 40:U",
  "20b:T 1:U 1:C 1:T 2:U 1a:T 5:U 31:T 5:U 5:T 6:U 60:T 21:U bfe:T 3:U 8d:T 1:U 60:T 20:U 22a:T",
  "4:U 6b:T 2:U 75d4:T 4:U 1:T a:U 20:T 2:U 50:T 2:U 110:T 1:U 3:T 1:U 4:T 1:U 19:T 2:U 5:T 1:U",
  "13:D 32:L 1:U 51:T 2:U 1a:T 12:U d:T 1:U 26:T 8:U 19:T b:U 2e:T 3:U 30:T 1:U 2:T 4:U 2:T 2:U",
  "27:T 1:U 43:T 6:U 2:T 2:U 2:T 2:U c:T 1:U 8:T 1:U 2f:T 1:U 33:T 1:U 1:T 3:U 2:T 2:U 5:T 2:U",
  "1:T 1:U 2a:T 2:U 8:T 1:U ee:T 1:U 2:T 1:U 4:T 1:U 4f30:T 1:U 2e1:T 10:U 10:T 10:U cf:T 1:U",
  "f9:T 3:U 201:T 1:U e2:T 1:U 95:T 5:U 686:T 3:U 1:T 2:U 5:T 4:U 28:T 3:U 4:T 1:U 80:D 5:R 1:U",
  "1:R 1:U 1:R 2:U 2:L 1:R 5:D 4:L 1:D 5:R 1:D 3:R 1:U 2:R 1:T 2:U 4:D 4:R 1:U 90:D 1:R 1:D 1:R",
  "3:D 3:R 1:D 2:R 1:D 1:R 2:D 1:R 1:U 17:R 4:D 2:U 151:L 1:D 21:R 1:D 1:T 4:U 183:T 2:U 50:T",
  "3:U 30:D 3:R 1:D 11:U 1:T b:D 3:R 1:U 1b:D 4:R 2:D c:T 4:U 2a:D 1:U 1:D 2:R 3:U 1:D 1:R 2:D",
  "2:R 1:D 2:U 1:D 1:R 2:D 1:U 4:R 1:D 1:L 1:U 35:T 1:U 36:T f:U 29:T 1:U 2:T 2:U a:T 3:U 31:T",
  "4:U 2:T 2:U 7:T 1:U 3d:T 3:U 24:T 5:U 1:T 8:U 3e:T 1:U c:T 2:U 34:T 9:U a:T 4:U 2:T 1:U 5f:T",
  "3:U 2:T 1:U 1:T 2:U 6:T 1:U 2:T 1:U 9d:T 1:U 3:T 8:U 15:T 2:U 39:T 2:U 3:T 1:U 25:T 7:U 3:T",
  "5:U c3:T 8:U 2:T 3:U 1:T 1:U 17:T 1:U 54:T 6:U 1:T 1:U 4:T 2:U 1:T 2:U ee:T 4:U 6:T 2:U 1:T",
  "2:U 1b:T 2:U 55:T 8:U 2:T 1:U 1:T 2:U 6a:T 1:U 1:T 1:U 2:T 6:U 1:T 1:U 65:T 3:U 2:T 4:U 1:T",
  "5:U 103:T 9:U 1:T 2:U 100:T 2:U 1:T 1:U 4:T 1:U 90:T 4:U 2:T 2:U 4:T 1:U 20:T a:U 28:T 6:U",
  "2:T 4:U 8:T 1:U 9:T 6:U 2:T 3:U 2e:T d:U 1:T 2:U 196:T 7:U 1:T 6:U 1:T 1:U 52:T 16:U 2:T 7:U",
  "1:T 2:U 1:T 2:U 7a:T 6:U 3:T 1:U 1:T 2:U 1:T 7:U 1:T 1:U 48:T 2:U 3:T 1:U 1:T 1:U 15b:T 2:U",
  "b:T 2:U 34:T 5:U 5:T 1:U 1:T 1:U 14ed:T 11:U 6:T f:U 369a:T 5:U 3b:T 7:U 418:T 1:U 3f:T 4:U",
  "51:T 1:U 4cb8:T 2:U 1:T 4:U 125c:T 2e:U 2:T 17:U 220:T 3:U 9:T 10:U 2:T 7:U 1e:T 4:U 94:T",
  "3:U 7bb:T 37:U 4:T 32:U 8:T 1:U e:T 1:U 16:T 5:U 1:T f:U 550:T 7:U 1:T 11:U 2:T 7:U 1:T 2:U",
  "1:T 5:U 64:T 1:U a0:T 7:U 177:T 1:U 3d:T 4:U 1fc:T 4:U 3e0:T 7:U 29:D 44:T 8:U c16b5:T 1:U",
  "1e:T 60:U 80:T f0:U"]

/-- Whether the characters from each point on are combining marks. -/
def markData : List String := [
  "0:N 300:M 70:N 113:M 7:N 107:M 2d:N 1:M 1:N 1:M 2:N 1:M 2:N 1:M 1:N 48:M b:N 30:M 15:N 10:M",
  "1:N 65:M 7:N 2:M 6:N 2:M 2:N 1:M 4:N 23:M 1:N 1e:M 1b:N 5b:M b:N 3a:M 9:N 9:M 1:N 18:M 4:N",
  "1:M 9:N 1:M 3:N 1:M 5:N 2b:M 3:N 3c:M 8:N 2a:M 18:N 1:M 21:N 36:M 3:N 1:M 12:N 1:M 7:N a:M",
  "2:N 1d:M 3:N 38:M 1:N 1:M 7:N 2:M 2:N 2:M 3:N 9:M 1:N a:M 2:N 1a:M 1:N 2:M 3:N 38:M 1:N 1:M",
  "5:N 4:M 2:N 2:M 3:N 3:M 1:N 1e:M 2:N 3:M 1:N b:M 3:N 38:M 1:N 1:M 8:N 1:M 3:N 1:M 3:N 14:M",
  "2:N 16:M 6:N 1:M 3:N 38:M 1:N 1:M 7:N 2:M 2:N 2:M 3:N 7:M 3:N a:M 2:N 1e:M 1:N 3b:M 5:N 3:M",
  "3:N 1:M 4:N 9:M 1:N 28:M 5:N 37:M 1:N 1:M 7:N 1:M 3:N 1:M 4:N 7:M 2:N b:M 2:N 1d:M 3:N 38:M",
  "1:N 1:M 7:N 1:M 3:N 1:M 4:N 7:M 2:N b:M 2:N f:M 1:N c:M 4:N 37:M 2:N 1:M 7:N 1:M 3:N 1:M 4:N",
  "9:M 1:N a:M 2:N 1d:M 3:N 46:M 1:N 4:M 6:N 1:M 1:N 1:M 8:N 12:M 2:N 3d:M 1:N 2:M 7:N c:M 8:N",
  "62:M 1:N 2:M 9:N b:M 7:N 49:M 2:N 1b:M 1:N 1:M 1:N 1:M 1:N 4:M 2:N 31:M 14:N 1:M 2:N 5:M b:N",
  "1:M 24:N 9:M 1:N 64:M 14:N 17:M 4:N 4:M 3:N 1:M 3:N 2:M 7:N 3:M 4:N d:M c:N 1:M 1:N a:M 4:N",
  "2bf:M 3:N 3b2:M 4:N 1c:M 3:N 1d:M 2:N 1e:M 2:N 40:M 20:N 9:M 1:N 2d:M 3:N 1:M 1:N 75:M 2:N",
  "22:M 1:N 76:M c:N 4:M c:N db:M 5:N 39:M a:N 1:M 1d:N 2:M 1:N 30:M 1f:N 31:M 5:N 2f:M 11:N",
  "26:M 9:N c:M 3:N 1e:M d:N 38:M e:N 30:M 14:N 98:M 3:N 1:M 15:N 4:M 1:N 6:M 1:N 2:M 3:N c6:M",
  "40:N 2d0:M 21:N bfe:M 3:N 8d:M 1:N 60:M 20:N 22a:M 6:N 69:M 2:N 75d4:M 4:N 1:M a:N 20:M 2:N",
  "50:M 2:N 110:M 1:N 3:M 1:N 4:M 1:N 17:M 5:N 4:M 1:N 53:M 2:N 32:M 12:N 1a:M 12:N d:M 1:N",
  "26:M 8:N 19:M d:N 2c:M 4:N 2f:M e:N 24:M 1:N 43:M e:N c:M 1:N 8:M 2:N 2d:M 3:N 32:M 1:N 1:M",
  "3:N 2:M 2:N 5:M 2:N 1:M 1:N 29:M 5:N 5:M 2:N ec:M 8:N 1:M 2:N 4f30:M 1:N 2e1:M 10:N 10:M",
  "10:N 3cd:M 1:N e2:M 1:N 95:M 5:N 686:M 3:N 1:M 2:N 5:M 4:N 28:M 3:N 4:M 1:N a5:M 2:N 23d:M",
  "4:N 183:M 2:N 50:M 3:N 46:M b:N 31:M 4:N 7a:M 3:N 35:M f:N 29:M 1:N 2:M 2:N a:M 4:N 2d:M b:N",
  "7:M 1:N 3d:M 3:N 24:M e:N 10:M 2:N 2c:M 1:N c:M 3:N 30:M e:N 8:M 4:N 1:M 2:N 5c:M c:N 6:M",
  "1:N 2:M 1:N 9d:M c:N 15:M 4:N 37:M 2:N 1:M 7:N 2:M 2:N 2:M 3:N 9:M 1:N a:M 2:N 2:M 7:N 3:M",
  "5:N c0:M 12:N 17:M 1:N 51:M 14:N eb:M 7:N 2:M 9:N 1b:M 2:N 52:M 11:N 6a:M d:N 65:M f:N 100:M",
  "f:N f5:M 6:N 1:M 2:N 2:M 4:N 1:M 1:N 1:M 2:N 8d:M 7:N 2:M 7:N 3:M 1:N 1c:M a:N 28:M 7:N 1:M",
  "4:N 8:M 1:N 9:M b:N 2e:M 10:N 195:M 8:N 1:M 8:N 52:M 16:N 1:M e:N 7a:M 6:N 3:M 1:N 1:M 2:N",
  "1:M 7:N 1:M 1:N 42:M 5:N 1:M 2:N 1:M 5:N 15b:M 4:N 9:M 2:N 1:M 1:N 30:M 7:N 3:M 5:N 14fd:M",
  "1:N 6:M f:N 369a:M 5:N 3b:M 7:N 418:M 1:N 1:M 37:N 7:M 4:N 51:M 1:N b:M 2:N 4cab:M 2:N",
  "1261:M 2e:N 2:M 17:N 21e:M 5:N 3:M 6:N 8:M 8:N 2:M 7:N 1e:M 4:N 94:M 3:N 7bb:M 37:N 4:M 32:N",
  "8:M 1:N e:M 1:N 16:M 5:N 1:M f:N 550:M 7:N 1:M 11:N 2:M 7:N 1:M 2:N 1:M 5:N 64:M 1:N a0:M",
  "7:N 177:M 1:N 3d:M 4:N 1fc:M 4:N 3e0:M 7:N 6d:M 7:N c17b5:M f0:N"]

end Jukebox.Url
