import Rendezvous.Unicode.CodePoints

/-! Characters that debug text shows as they are, version 16.0: neither control, format,
private nor unassigned, no separator but the blank, and no mark that joins the character
before it. -/
namespace Rendezvous.Unicode.Printable

/-- Controls, formats, private and unassigned code points, and separators other than U+0020. -/
def hidden : CodePoints := CodePoints.read
    "0.1f 5f.21 c 2ca.1 6.3 7 1 14 18d 26.1 32.1 3 37.7 1b.3 6.10 16 c0 30.1 3b.1 65.d 3b.1 31.1 f
    1c.1 1 b.4 1f.7 4b a1 8.1 2.1 16 7 1.2 4.1 9.1 2.1 4.7 1.3 2 5.1 19.1 3 6.3 2.1 16 7 2 2 2.1
    1 5.3 2.1 3.2 1.6 4 1.6 11.9 3 9 3 16 7 2 5.1 a 3 3.1 1.e 4.1 c.6 7 3 8.1 2.1 16 7 2 5.1 9.1
    2.1 3.6 3.3 2 5.1 12.9 2 6.2 3 4.2 2 1 2.2 2.2 3.2 c.3 5.2 3 4.1 1.5 1.d 15.4 d 3 17 10.1 9 3
    4.6 2 3.1 1.1 4.1 a.6 16 3 17 a 5.1 9 3 4.6 2.5 2 4.1 a 3.b d 3 33 3 6.3 10.1 1a 3 12.2 18 9
    1.1 7.2 1.3 6 1 8.5 a.1 3.b 3a.3 1d.24 2 1 5 18 1 17.1 5 1 7 a.1 4.1f 48 24.3 27 24 f d.24 c6
    1.4 1.1 179 4.1 7 1 4.1 29 4.1 21 4.1 7 1 4.1 f 39 4.1 43.1 20.2 1a.5 56.1 6.1 280 1c.2 59.6
    16.8 18.8 14.b d 3 2.b 5e.1 a.5 a.5 e b.5 59.6 2b.4 46.9 1f c.3 c.3 1.2 2a.1 5.a 2c.3 1a.5
    b.2 3e.1 41 1d.1 b.5 a.5 e.1 1f.30 4d a6.7 3c.2 f.2 3e.4 2b.1 b.7 2b.4 216.1 6.1 26.1 6.1 8 1
    1 1 1f.1 35 f e.1 6 13.1 3 9.10 18.7 2f.10 2.1 1b d.2 21.e 21.e 8c.3 29a.15 b.14 714.1 20
    15d.4 2d 1.4 1.1 38.6 2.d 18.8 7 7 7 7 7 7 7 7 7e.21 1a 59.b d6.19 10 3f 56.1 67.4 2b 5e 56.8
    30 726d.2 37.8 15c.13 b8.7 ce.1 2 1 8.14 3b.2 a.5 38.7 46.7 c.5 74.a 1e.2 4e b.3 21 37.8 e.1
    a.1 67.17 1c.9 6.1 6.1 6.8 7 7 3c.3 7e.1 a.5 2ba4.b 17.3 31.3 800.18ff 16e.1 6a.25 7.b 5.4 1a
    5 1 2 2 7d.f 1bd.1 36.6 1.1f 2a.5 33 13 4.3 5 87.3 be.2 6.1 6.1 6.1 3.2 7 7.c 2.1 c 1a 13 2
    f.1 e.21 7b.4 3.3 2d.2 58 d.2 1.2e 2e.81 1d.2 31.e 1c.3 24.8 1e.4 2b.4 1e 25.3 e.29 9e.1 a.5
    24.3 24.3 28.7 34.a c f 7 2 b f 7 2.2 34.b 137.8 16.9 8.17 6 2a 9.44 6.1 1 2c 2.2 1.1 17 48.7
    9.2f 13 2.4 21.2 1b.4 1.3f 38.3 14.1 32 2.4 8 3 1d.1 3.3 a.6 9.6 40.1f 27.3 c.8 36.2 1d.1
    1b.4 1a.6 4.b 7.4f 49.36 33.c 33.6 2e.7 a.5 26.2 1d.7 2.cf 1f 2a 3.1 2.f 3.36 2c.7 2a.15
    1a.25 1c.13 17.8 4e.3 24.8 3e 5.c 19.6 a.5 35 12.7 27.8 60 14.a 12 2f.3d 7 1 4 f b.5 3b.4 a.5
    4 8.1 2.1 16 7 2 5 a.1 2.1 3.1 1.5 1.4 7.1 7.2 5.a a 1.1 1 26 a 1.1 1 4 a 2.7 2.1c 5c 5.1d
    48.7 a.a5 36.1 26.21 45.a a.5 d.12 3a.5 a.5 14.1b 1b.1 f.3 17.b8 3c.63 53.b 8.1 1.1 8 2 1e
    2.1 c.8 a.45 8.1 2e.1 b.1a 48.7 53.c 49.6 a.b5 22.d a.5 9 2d e.9 1d.2 20.1 16 e.48 7 2 2c.2 1
    2 9.7 a.5 6 2 25 2 6.6 a.135 19.6 11 29.2 1d.54 1.e 32.c 39b.65 6f 5.a c4.a4b 63.c 430.f 16.9
    f9b.4 247.1ab8 3a.6c5 239.6 1f a.3 51 a.5 1e.1 6.9 46.9 a 7 15.4 13.1af 3a.c5 5b.64 4b.3 39.6
    11.3f 5.a 2.d 17f8.7 4d6.28 a.22e6 4 7 2 123.e 1.1c 3.1 1.d 4.7 18c.903 6b.4 d.2 9.6 a.1
    4.f5f fa.5 1b4.4b 2e.1 17.8 74.3b f6.9 27.1 4a.7 70.14 46.79 14.b 14.b 57.8 19.86 55 47 2.1
    1.1 2.1 4 c 1 7 41 4.1 8 7 1c 4 5 1.2 7 154.1 124.1 2be.e 5 f.44f 1f.5 6.d4 7 11.1 7 2 5.4
    3e.20 1.6f 2d.2 e.1 a.3 2.13f 1f.10 3a.4 1.1cf 2a.d5 2b.3 1.1df 7 4 2 f c5.1 10.28 4c.3 a.3
    2.310 44.4b 3d.c1 4 1b 2 1.1 1 a 4 1 1.5 1.3 1 1 1 3 2 1.1 1 1 1 1 1 2 1.1 4 7 4 4 1 a 11.4 3
    5 11.33 2.10d 2c.3 64.b f.1 f f 25.9 ae.37 1d.c 2c.3 9.6 2.d 6.99 3d8.3 11.2 d.2 77.3 5f.5
    c.3 1.e c.3 38.7 a.5 28.7 1e.1 c.3 2.3d 154.b e.1 d.2 a.4 38.6 f.1 b.5 9.6 93 66.405 a6e0.1f
    103a.5 de.1 1682.d 1d31.e 26e.9a1 21e.5e1 134b.4 1060.add4f f0.2fe0f"

/-- Marks that extend the character before them. -/
def extending : CodePoints := CodePoints.read
    "300.6f 113.6 107.2c 1 1.1 1.1 1 48.a 30.14 10 65.6 2.5 2.1 1.3 23 1e.1a 5b.a 3a.8 9 18.3 1.8
    1.2 1.4 2b.2 3b.8 2a.17 1.1f 37 1 4.7 4 3.6 a.1 1d 3a 1 2.3 8 9 a.1 1a 2.1 39 4.1 4.1 2.2 3
    1e.1 3 b.1 39 4.4 1.1 4 14.1 16.5 1 3a 1.1 1.3 8 7.2 a.1 1e 3b 1 c 9 28 3 37 1.2 5.2 1.3 7.1
    b.1 1d 3a 2.1 1 3.2 1.3 7.1 b.1 1c.1 39.1 1 2.3 8 9 a.1 1d 48 4 2.2 1 8 51 2.6 c.7 62 2.8 b.6
    49.1 1b 1 1 37.d 1.4 1.1 5.a 1.23 9 66.3 1.5 1.1 2.1 19.1 4.2 10.3 d 2.1 6 f 2bf.2 3b2.3 1c.2
    1d.1 1e.1 40.1 1.6 8 2.a 9 2d.2 1 75.1 22 76.2 4.1 9 6.2 db.1 2 3a 1.6 1 1 2.7 6.9 2 30.1e
    31.3 30.9 4.2 26.8 c.1 20.3 2.5 38 1.1 3 1.4 38.7 2.1 98.2 1.c 1.6 4 6 3.1 c6.3f 20c c3.20
    bfe.2 8d 60.1f 22a.5 69.1 75d4.3 1.9 20.1 50.1 110 3 4 19.1 5 97.1 1a.11 d 26.7 19.a 1 2c.2
    30 2.3 2.1 2 24 43.5 2.1 2.1 c 8 2f 33 1.2 2.1 5.1 1 2a.1 8 ee 2 4 4f30 2e1.f 10.f 16e.1 25d
    e2 95.4 686.2 1.1 5.3 28.2 4 a5.1 23d.3 41.4 13d.1 4f.3 46.a 31.3 7b 36.e 29 2.1 a.2 31.3 2.1
    7 3d.2 24.4 1.7 3e c.1 34.8 1 8.3 2 5f.2 2.3 6 2 9d 3.7 15.1 39.1 1 1 c 9 e.6 3.4 43 2.5 1 2
    1.2 4.2 1 e.1 55.7 2.2 1 17 51 2.5 1 2 1.1 1.1 eb 2.3 6.1 1.1 1b.1 55.7 2 1.1 6a 1 2.7 65 1
    2.3 1.4 103.8 1.1 f5 a.3 4 90.3 2.1 4 20.9 28.5 2.3 8 9.5 2.2 2e.c 1.1 196.6 1.5 1 52.15 2.6
    1.1 1.1 7a.5 3 1.1 1.6 1 48.1 3 1 15b.1 b.1 34.4 5.2 17 14e5 6.e 2cc8.b 3.2 9c0.4 3b.6 418
    3f.3 51 b.1 4cab.1 1261.2d 2.16 21e.4 3.5 8.7 2.6 1e.3 94.2 7bb.36 4.31 8 e 16.4 1.e 550.6
    1.10 2.6 1.1 1.4 64 a0.6 177 3d.3 1fc.3 fe.1 2e0.6 6d.6 c16d5.5f 80.ef"

def isPrintable (c : Char) : Bool := !hidden.mem c.toNat && !extending.mem c.toNat

end Rendezvous.Unicode.Printable
